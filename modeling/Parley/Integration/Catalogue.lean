import Parley.Integration.Basic

/-!
# The integrations that are known

For each integration: what it is, where it reports to, and its events with their variables.
-/

namespace Parley.Integration

/-- A shop: Shopify. -/
def shopify : Integration where
  id := "shopify"
  name := "Shopify"
  description := "E-commerce store automation"
  category := "e-commerce"
  address := "https://your-domain.com/webhooks/shopify/\x7bevent\x7d"
  authRequired := true
  events := [
    { id := "order_created"
      name := "New Order"
      description := "Triggered when a new order is placed"
      eventType := "orders/create"
      triggerDescription := "When a customer places a new order on your Shopify store"
      declared := [
          ⟨"order_number", "Order number", "#1001", "string"⟩,
          ⟨"customer_name", "Customer full name", "John Doe", "string"⟩,
          ⟨"customer_phone", "Customer phone number", "+1234567890", "string"⟩,
          ⟨"total_amount", "Order total amount", "29.99", "number"⟩,
          ⟨"currency", "Order currency", "USD", "string"⟩,
          ⟨"item_count", "Number of items", "3", "number"⟩] },
    { id := "order_shipped"
      name := "Order Shipped"
      description := "Triggered when an order is fulfilled"
      eventType := "orders/fulfilled"
      triggerDescription := "When an order is marked as fulfilled and shipped"
      declared := [
          ⟨"order_number", "Order number", "#1001", "string"⟩,
          ⟨"tracking_number", "Tracking number", "1Z999AA1234567890", "string"⟩,
          ⟨"tracking_url", "Tracking URL", "https://tracking.example.com", "string"⟩,
          ⟨"shipping_method", "Shipping method", "Standard Shipping", "string"⟩] },
    { id := "cart_abandoned"
      name := "Abandoned Cart"
      description := "Triggered when a checkout is created but not completed"
      eventType := "checkouts/create"
      triggerDescription := "When a customer starts checkout and leaves without paying"
      declared := [
          ⟨"cart_total", "Cart total amount", "49.99", "number"⟩,
          ⟨"customer_email", "Customer email", "john@example.com", "string"⟩,
          ⟨"customer_phone", "Customer phone", "+1234567890", "string"⟩,
          ⟨"item_count", "Number of items in cart", "2", "number"⟩] },
    { id := "product_low_stock"
      name := "Low Stock"
      description := "Triggered when a product's inventory runs low"
      eventType := "products/update"
      triggerDescription := "When product stock drops below the threshold"
      declared := [
          ⟨"product_name", "Product name", "Amazing Product", "string"⟩,
          ⟨"stock_quantity", "Current stock quantity", "2", "number"⟩,
          ⟨"product_id", "Product ID", "123", "string"⟩] }]

/-- A shop: WooCommerce. -/
def woocommerce : Integration where
  id := "woocommerce"
  name := "WooCommerce"
  description := "WordPress e-commerce automation"
  category := "e-commerce"
  address := "https://your-domain.com/webhooks/woocommerce/\x7bevent\x7d"
  authRequired := true
  events := [
    { id := "order_created"
      name := "New Order"
      description := "Triggered when a new order is created"
      eventType := "order.created"
      triggerDescription := "When a customer places an order in your WooCommerce store"
      declared := [
          ⟨"order_id", "Order ID", "123", "string"⟩,
          ⟨"customer_name", "Customer full name", "Jane Smith", "string"⟩,
          ⟨"customer_phone", "Customer phone number", "+1234567890", "string"⟩,
          ⟨"order_total", "Order total amount", "35.00", "number"⟩,
          ⟨"order_status", "Order status", "processing", "string"⟩] },
    { id := "payment_complete"
      name := "Payment Complete"
      description := "Triggered when an order payment succeeds"
      eventType := "order.payment_complete"
      triggerDescription := "When payment for an order is completed"
      declared := [
          ⟨"order_id", "Order ID", "123", "string"⟩,
          ⟨"payment_method", "Payment method used", "stripe", "string"⟩,
          ⟨"transaction_id", "Transaction ID", "txn_abc123", "string"⟩,
          ⟨"amount", "Payment amount", "35.00", "number"⟩] }]

/-- Customers and deals: HubSpot. -/
def hubspot : Integration where
  id := "hubspot"
  name := "HubSpot"
  description := "CRM and marketing automation"
  category := "crm"
  address := "https://your-domain.com/webhooks/hubspot/\x7bevent\x7d"
  authRequired := true
  events := [
    { id := "contact_created"
      name := "New Contact"
      description := "Triggered when a contact is created"
      eventType := "contact.creation"
      triggerDescription := "When a new contact is added to HubSpot"
      declared := [
          ⟨"contact_name", "Contact full name", "John Doe", "string"⟩,
          ⟨"contact_email", "Contact email", "john@example.com", "string"⟩,
          ⟨"contact_phone", "Contact phone", "+1234567890", "string"⟩,
          ⟨"company_name", "Company name", "Acme Corp", "string"⟩,
          ⟨"lifecycle_stage", "Contact lifecycle stage", "lead", "string"⟩] },
    { id := "deal_created"
      name := "New Deal"
      description := "Triggered when a deal is created"
      eventType := "deal.creation"
      triggerDescription := "When a new deal is opened in the pipeline"
      declared := [
          ⟨"deal_name", "Deal name", "Big Deal", "string"⟩,
          ⟨"deal_amount", "Deal amount", "5000", "number"⟩,
          ⟨"deal_stage", "Deal stage", "appointmentscheduled", "string"⟩,
          ⟨"close_date", "Expected close date", "2024-12-31", "string"⟩] },
    { id := "deal_stage_change"
      name := "Deal Stage Changed"
      description := "Triggered when a deal moves to another stage"
      eventType := "deal.propertyChange"
      triggerDescription := "When a deal's pipeline stage changes"
      declared := [
          ⟨"deal_id", "Deal ID", "456", "string"⟩,
          ⟨"new_stage", "New deal stage", "closedwon", "string"⟩,
          ⟨"previous_stage", "Previous deal stage", "negotiation", "string"⟩] }]

/-- Payments: Stripe. -/
def stripe : Integration where
  id := "stripe"
  name := "Stripe"
  description := "Payment processing automation"
  category := "payments"
  address := "https://your-domain.com/webhooks/stripe"
  authRequired := true
  events := [
    { id := "payment_succeeded"
      name := "Payment Succeeded"
      description := "Triggered when a payment succeeds"
      eventType := "payment_intent.succeeded"
      triggerDescription := "When a customer's payment is processed successfully"
      declared := [
          ⟨"payment_id", "Payment ID", "pi_1234567890", "string"⟩,
          ⟨"amount", "Payment amount (in cents)", "2999", "number"⟩,
          ⟨"currency", "Payment currency", "usd", "string"⟩,
          ⟨"customer_id", "Stripe customer ID", "cus_1234567890", "string"⟩] },
    { id := "payment_failed"
      name := "Payment Failed"
      description := "Triggered when a payment fails"
      eventType := "payment_intent.payment_failed"
      triggerDescription := "When a customer's payment is declined"
      declared := [
          ⟨"payment_id", "Payment ID", "pi_1234567890", "string"⟩,
          ⟨"amount", "Payment amount (in cents)", "2999", "number"⟩,
          ⟨"error_message", "Payment failure reason", "Your card was declined.", "string"⟩] },
    { id := "subscription_created"
      name := "New Subscription"
      description := "Triggered when a subscription starts"
      eventType := "customer.subscription.created"
      triggerDescription := "When a customer subscribes to a plan"
      declared := [
          ⟨"subscription_id", "Subscription ID", "sub_1234567890", "string"⟩,
          ⟨"customer_id", "Customer ID", "cus_1234567890", "string"⟩,
          ⟨"plan_amount", "Plan amount (in cents)", "999", "number"⟩,
          ⟨"plan_interval", "Plan interval", "month", "string"⟩] }]

/-- Support: Zendesk. -/
def zendesk : Integration where
  id := "zendesk"
  name := "Zendesk"
  description := "Customer support automation"
  category := "support"
  address := "https://your-domain.com/webhooks/zendesk/\x7bevent\x7d"
  authRequired := true
  events := [
    { id := "ticket_created"
      name := "New Ticket"
      description := "Triggered when a support ticket is created"
      eventType := "ticket.created"
      triggerDescription := "When a customer opens a new support ticket"
      declared := [
          ⟨"ticket_id", "Ticket ID", "123", "string"⟩,
          ⟨"ticket_subject", "Ticket subject", "Need help with order", "string"⟩,
          ⟨"ticket_priority", "Ticket priority", "normal", "string"⟩,
          ⟨"requester_id", "Customer ID who created ticket", "456", "string"⟩] },
    { id := "ticket_solved"
      name := "Ticket Solved"
      description := "Triggered when a ticket is solved"
      eventType := "ticket.solved"
      triggerDescription := "When an agent marks a ticket as solved"
      declared := [
          ⟨"ticket_id", "Ticket ID", "123", "string"⟩,
          ⟨"ticket_subject", "Ticket subject", "Need help with order", "string"⟩,
          ⟨"assignee_id", "Agent who solved the ticket", "789", "string"⟩,
          ⟨"solved_at", "When ticket was solved", "2024-01-15T10:30:00Z", "string"⟩] }]

/-- Mailings: Mailchimp. -/
def mailchimp : Integration where
  id := "mailchimp"
  name := "Mailchimp"
  description := "Email marketing automation"
  category := "marketing"
  address := "https://your-domain.com/webhooks/mailchimp/\x7bevent\x7d"
  authRequired := false
  events := [
    { id := "campaign_sent"
      name := "Campaign Sent"
      description := "Triggered when an email campaign is sent"
      eventType := "campaign.sent"
      triggerDescription := "When a campaign finishes sending"
      declared := [
          ⟨"campaign_id", "Campaign ID", "abc123", "string"⟩,
          ⟨"subject_line", "Email subject line", "Monthly Newsletter", "string"⟩,
          ⟨"emails_sent", "Number of emails sent", "1500", "number"⟩,
          ⟨"send_time", "When campaign was sent", "2024-01-15T09:00:00Z", "string"⟩] },
    { id := "subscriber_added"
      name := "New Subscriber"
      description := "Triggered when someone joins a list"
      eventType := "list.subscribe"
      triggerDescription := "When a new subscriber is added to a mailing list"
      declared := [
          ⟨"subscriber_email", "Subscriber email", "subscriber@example.com", "string"⟩,
          ⟨"first_name", "Subscriber first name", "John", "string"⟩,
          ⟨"last_name", "Subscriber last name", "Doe", "string"⟩,
          ⟨"list_id", "Mailing list ID", "def456", "string"⟩] }]

/-- All integrations, in the order in which they are listed. -/
def catalogue : List Integration :=
  [shopify, woocommerce, hubspot, stripe, zendesk, mailchimp]

/-- The integrations of a category, or all of them. -/
def inCategory : Option String → List Integration
  | some category => catalogue.filter fun i => i.category == category
  | none => catalogue

/-- The integration of an id. -/
def find? (id : String) : Option Integration := catalogue.find? fun i => i.id == id

/-- The event of an integration, both by their ids. -/
def findEvent? (id event : String) : Option IntegrationEvent := (find? id).bind (·.event? event)

/-- The values that an event brings in its payload; an event that is not listed brings none. -/
def eventValues? (id event : String) (payload : Fields) : Option (Dict String) :=
  (findEvent? id event).map (·.valuesIn payload)

end Parley.Integration
