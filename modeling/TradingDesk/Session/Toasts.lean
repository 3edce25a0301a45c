/-! Notifications that vanish by themselves. A toast can be seen while it is younger than its time to live;
of too many toasts the oldest go. -/

namespace TradingDesk

inductive ToastLevel where
  | success
  | error
  | info
  deriving DecidableEq, Repr

def ToastLevel.title : ToastLevel → String
  | .success => "Success"
  | .error => "Error"
  | .info => "Info"

structure Toast where
  id : Nat
  level : ToastLevel
  message : String
  createdAt : Nat
  deriving DecidableEq, Repr

/-- Toasts from the oldest to the newest. Times and `timeToLive` are counts of one unit. -/
structure Toasts where
  queue : List Toast := []
  timeToLive : Nat
  limit : Nat
  nextId : Nat := 1

namespace Toasts

/-- There is room for one toast at least. -/
def new (timeToLive limit : Nat) : Toasts :=
  { timeToLive, limit := max 1 limit }

def isVisible (timeToLive now : Nat) (t : Toast) : Bool :=
  now - t.createdAt < timeToLive

def visible (now : Nat) (t : Toasts) : List Toast :=
  t.queue.filter (isVisible t.timeToLive now)

/-- Drops the toasts that can no longer be seen; the count tells how many there were. -/
def prune (now : Nat) (t : Toasts) : Nat × Toasts :=
  (t.queue.length - (t.visible now).length, { t with queue := t.visible now })

def dismiss (id : Nat) (t : Toasts) : Bool × Toasts :=
  (t.queue.any fun toast => toast.id = id, { t with queue := t.queue.filter fun toast => toast.id ≠ id })

def newest (limit : Nat) (queue : List Toast) : List Toast :=
  queue.drop (queue.length - limit)

def push (now : Nat) (level : ToastLevel) (message : String) (t : Toasts) : Toasts :=
  { t with
    queue := newest t.limit (t.queue ++ [⟨t.nextId, level, message, now⟩])
    nextId := t.nextId + 1 }

end Toasts
end TradingDesk
