/-! # Mailboxes

A mailbox is a queue of limited size between senders and one receiver.  Either side
may go away: what was sent before can still be received, and nothing can be sent to
a receiver that is gone.
-/

namespace SliderMixer

/-- The items on their way, oldest first. -/
structure Mailbox (β : Type) where
  capacity : Nat
  items : List β := []
  senderGone : Bool := false
  receiverGone : Bool := false
  deriving DecidableEq, Inhabited

/-- What a receiver finds. -/
inductive Received (β : Type) where
  | item (value : β)
  /-- Nothing yet. -/
  | waiting
  /-- Nothing any more. -/
  | ended
  deriving DecidableEq

namespace Mailbox

variable {β : Type}

def hasRoom (m : Mailbox β) : Bool := m.items.length < m.capacity

/-- Adds an item if there is room and a receiver; says whether it did. -/
def offer (m : Mailbox β) (value : β) : Bool × Mailbox β :=
  if m.receiverGone then (false, m)
  else if m.hasRoom then (true, { m with items := m.items ++ [value] })
  else (false, m)

def receive (m : Mailbox β) : Received β × Mailbox β :=
  match m.items with
  | value :: rest => (.item value, { m with items := rest })
  | [] => (if m.senderGone then .ended else .waiting, m)

def dropSender (m : Mailbox β) : Mailbox β := { m with senderGone := true }

/-- The receiver goes away, and what it has not received is lost. -/
def dropReceiver (m : Mailbox β) : Mailbox β := { m with receiverGone := true, items := [] }

end Mailbox

end SliderMixer
