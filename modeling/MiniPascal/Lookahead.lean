set_option autoImplicit false

namespace MiniPascal

structure Lookahead (α : Type) where
  buffer : List α
  source : List α
  pulled : Nat

namespace Lookahead

variable {α : Type}

def ofList (items : List α) : Lookahead α :=
  ⟨[], items, 0⟩

def toList (l : Lookahead α) : List α :=
  l.buffer ++ l.source

/-- Pulls items until the buffer holds `n` of them or the source is empty. -/
def fill (n : Nat) (l : Lookahead α) : Lookahead α :=
  let missing := n - l.buffer.length
  ⟨l.buffer ++ l.source.take missing, l.source.drop missing,
    l.pulled + (l.source.take missing).length⟩

def next (l : Lookahead α) : Option α × Lookahead α :=
  match l.buffer, l.source with
  | item :: rest, _ => (some item, { l with buffer := rest })
  | [], item :: rest => (some item, { l with source := rest, pulled := l.pulled + 1 })
  | [], [] => (none, l)

def peekNth (n : Nat) (l : Lookahead α) : Option α × Lookahead α :=
  let filled := l.fill (n + 1)
  (filled.buffer[n]?, filled)

def peek (l : Lookahead α) : Option α × Lookahead α :=
  l.peekNth 0

def nthIs (n : Nat) (test : α → Bool) (l : Lookahead α) : Bool × Lookahead α :=
  let (item, l) := l.peekNth n
  (item.any test, l)

def nextIs (test : α → Bool) (l : Lookahead α) : Bool × Lookahead α :=
  l.nthIs 0 test

def nextIf (test : α → Bool) (l : Lookahead α) : Option α × Lookahead α :=
  match l.nextIs test with
  | (true, l) => l.next
  | (false, l) => (none, l)

@[simp] theorem toList_ofList (items : List α) : (ofList items).toList = items := rfl

@[simp] theorem toList_fill (n : Nat) (l : Lookahead α) : (l.fill n).toList = l.toList := by
  simp [fill, toList]

@[simp] theorem toList_peekNth (n : Nat) (l : Lookahead α) : (l.peekNth n).2.toList = l.toList :=
  toList_fill (n + 1) l

@[simp] theorem toList_nextIs (test : α → Bool) (l : Lookahead α) :
    (l.nextIs test).2.toList = l.toList :=
  toList_peekNth 0 l

theorem toList_next (l : Lookahead α) : l.next.2.toList = l.toList.tail := by
  unfold next toList
  split <;> simp_all

theorem fst_next (l : Lookahead α) : l.next.1 = l.toList.head? := by
  unfold next toList
  split <;> simp_all

theorem length_nextIf_lt {test : α → Bool} {l after : Lookahead α} {item : α}
    (h : l.nextIf test = (some item, after)) : after.toList.length < l.toList.length := by
  have same := toList_nextIs test l
  unfold nextIf at h
  split at h
  next viewed hit =>
    rw [hit] at same
    have taken : viewed.toList.head? = some item := by rw [← fst_next, h]
    have left : after.toList = viewed.toList.tail := by rw [← toList_next, h]
    rw [left, ← same]
    cases held : viewed.toList with
    | nil => simp [held] at taken
    | cons _ _ => simp
  next => simp at h

def nextWhile (test : α → Bool) (l : Lookahead α) : List α × Lookahead α :=
  match h : l.nextIf test with
  | (none, after) => ([], after)
  | (some item, after) =>
    have := length_nextIf_lt h
    let (items, final) := nextWhile test after
    (item :: items, final)
termination_by l.toList.length

end Lookahead

end MiniPascal
