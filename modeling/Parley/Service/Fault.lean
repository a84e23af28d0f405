import Parley.Reading.Basic

/-!
# Faults on purpose

A simulated service can be told to fail: a *rule* names a service and one of its actions and says how
that action fails. Whether it does is a matter of chance: a number from zero up to, but not including, one is
drawn, and a rule applies if the number is not greater than its probability. So a rule with a probability of one
or more always applies and one with a negative probability never. Nothing is drawn here; what is drawn has to be
said.
-/

namespace Parley

/-- How an action of a simulated service fails. -/
structure FaultRule where
  kind : String
  message : String
  /-- The status that a failing call comes back with. -/
  status : Int := 500
  probability : Float := 1.0

namespace FaultRule

/-- Reads a rule. -/
def reader : Reader FaultRule :=
  Reader.record .notRecord fun fs =>
    FaultRule.mk
      <$> fs.required "error_type" Reader.text
      <*> fs.required "message" Reader.text
      <*> fs.withDefault "status" 500 Reader.whole
      <*> fs.withDefault "probability" 1.0 Reader.floating

/-- Whether the rule applies if some number is drawn. -/
def applies (r : FaultRule) (draw : Float) : Bool := draw ≤ r.probability

end FaultRule

/-- Rules by service and action, with a point in between. -/
abbrev FaultRules := Dict FaultRule

namespace FaultRules

/-- Reads rules. -/
def reader : Reader FaultRules := Reader.dictOf FaultRule.reader

/-- The rule by which an action fails, if some number is drawn. -/
def rule? (rules : FaultRules) (draw : Float) (service action : String) : Option FaultRule :=
  (Dict.get? rules (service ++ "." ++ action)).filter (·.applies draw)

end FaultRules

end Parley
