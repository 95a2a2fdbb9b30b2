/-!
# Kinds of collection

The events that collect a record, and a value for each of them.
-/

namespace UsageWatch

inductive CollectionKind where
  | bootTime
  | wakeUp
  | userSwitch
  | periodic
  | custom
deriving DecidableEq, Repr, Inhabited

namespace CollectionKind

def all : List CollectionKind := [bootTime, wakeUp, userSwitch, periodic, custom]

theorem mem_all (k : CollectionKind) : k ∈ all := by cases k <;> decide

def name : CollectionKind → String
  | bootTime => "boot_time"
  | wakeUp => "wake_up"
  | userSwitch => "user_switch"
  | periodic => "periodic"
  | custom => "custom"

def ofName? (s : String) : Option CollectionKind := all.find? (·.name = s)

def title : CollectionKind → String
  | bootTime => "Boot-time performance report:"
  | wakeUp => "Wake-up performance report:"
  | userSwitch => "User-switch events performance report:"
  | periodic => "Last N minutes performance report:"
  | custom => "Custom performance data report:"

end CollectionKind

structure PerKind (α : Type) where
  bootTime : α
  wakeUp : α
  userSwitch : α
  periodic : α
  custom : α
deriving DecidableEq, Repr, Inhabited

namespace PerKind

variable {α : Type}

def pure (a : α) : PerKind α := ⟨a, a, a, a, a⟩

def get (t : PerKind α) : CollectionKind → α
  | .bootTime => t.bootTime
  | .wakeUp => t.wakeUp
  | .userSwitch => t.userSwitch
  | .periodic => t.periodic
  | .custom => t.custom

def set (t : PerKind α) (k : CollectionKind) (a : α) : PerKind α :=
  match k with
  | .bootTime => { t with bootTime := a }
  | .wakeUp => { t with wakeUp := a }
  | .userSwitch => { t with userSwitch := a }
  | .periodic => { t with periodic := a }
  | .custom => { t with custom := a }

def modify (t : PerKind α) (k : CollectionKind) (f : α → α) : PerKind α := t.set k (f (t.get k))

@[simp] theorem get_pure (a : α) (k : CollectionKind) : (pure a).get k = a := by cases k <;> rfl

@[simp] theorem get_set_self (t : PerKind α) (k : CollectionKind) (a : α) : (t.set k a).get k = a := by
  cases k <;> rfl

theorem get_set_of_ne (t : PerKind α) {j k : CollectionKind} (a : α) (h : j ≠ k) :
    (t.set k a).get j = t.get j := by
  cases j <;> cases k <;> first | rfl | exact absurd rfl h

end PerKind

end UsageWatch
