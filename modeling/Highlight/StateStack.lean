/-! # Stacks of states

A stack is never empty: it has a bottom state and the states above it. States are named by their
position in a grammar. An effect on the stack never fails; a push beyond the depth limit is refused
and leaves the stack as it was.
-/

namespace Highlight

abbrev StateId := Nat

structure StateStack where
  bottom : StateId
  /-- The states above the bottom, topmost first. -/
  above : List StateId := []
deriving DecidableEq, Repr

inductive Effect where
  | stay
  | push (target : StateId)
  | pop
  | switch (target : StateId)
  | popAll
deriving DecidableEq, Repr

namespace StateStack

def top (s : StateStack) : StateId := s.above.headD s.bottom

def depth (s : StateStack) : Nat := s.above.length + 1

def ids (s : StateStack) : List StateId := s.bottom :: s.above.reverse

def push (s : StateStack) (id : StateId) : StateStack := { s with above := id :: s.above }

def pop (s : StateStack) : StateStack := { s with above := s.above.tail }

def switch (s : StateStack) (id : StateId) : StateStack :=
  match s.above with
  | [] => ⟨id, []⟩
  | _ :: rest => ⟨s.bottom, id :: rest⟩

def popAll (s : StateStack) : StateStack := ⟨s.bottom, []⟩

theorem getLast?_ids (s : StateStack) : s.ids.getLast? = some s.top := by
  cases h : s.above <;> simp [ids, top, h, List.getLast?_cons]

@[simp] theorem ids_push (s : StateStack) (id : StateId) : (s.push id).ids = s.ids ++ [id] := by
  simp [ids, push]

@[simp] theorem ids_pop (s : StateStack) : s.pop.ids = s.bottom :: s.ids.tail.dropLast := by
  simp [ids, pop]

@[simp] theorem ids_switch (s : StateStack) (id : StateId) :
    (s.switch id).ids = s.ids.dropLast ++ [id] := by
  cases h : s.above <;> simp [ids, switch, h, List.dropLast_cons_of_ne_nil]

@[simp] theorem ids_popAll (s : StateStack) : s.popAll.ids = [s.bottom] := rfl

def refuses (s : StateStack) (limit : Nat) : Effect → Bool
  | .push _ => limit ≤ s.depth
  | _ => false

def apply (s : StateStack) (limit : Nat) : Effect → StateStack
  | .stay => s
  | .push id => if limit ≤ s.depth then s else s.push id
  | .pop => s.pop
  | .switch id => s.switch id
  | .popAll => s.popAll

end StateStack

end Highlight
