import MiniPascal.Lookahead

set_option autoImplicit false

namespace MiniPascal

namespace Lookahead

variable {α : Type}

inductive Call (α : Type) where
  | next
  | peek
  | peekNth (n : Nat)
  | nextIf (test : α → Bool)
  | nextWhile (test : α → Bool)
  | nextIs (test : α → Bool)
  | nthIs (n : Nat) (test : α → Bool)

inductive Answer (α : Type) where
  | item (found : Option α)
  | items (found : List α)
  | verdict (holds : Bool)

-- A look at an item some way ahead, made when so many items had been taken.
structure LookUp where
  taken : Nat
  distance : Nat

def LookUp.reach (total : Nat) (look : LookUp) : Nat :=
  min (look.taken + look.distance + 1) total

def furthest (total : Nat) : List LookUp → Nat
  | [] => 0
  | look :: rest => max (look.reach total) (furthest total rest)

theorem furthest_append (total : Nat) (these those : List LookUp) :
    furthest total (these ++ those) = max (furthest total these) (furthest total those) := by
  induction these with
  | nil => simp [furthest]
  | cons look rest ih => rw [List.cons_append, furthest, furthest, ih, Nat.max_assoc]

namespace Call

def run : Call α → Lookahead α → Answer α × Lookahead α
  | .next, l => l.next.map .item id
  | .peek, l => l.peek.map .item id
  | .peekNth n, l => (l.peekNth n).map .item id
  | .nextIf test, l => (l.nextIf test).map .item id
  | .nextWhile test, l => (l.nextWhile test).map .items id
  | .nextIs test, l => (l.nextIs test).map .verdict id
  | .nthIs n test, l => (l.nthIs n test).map .verdict id

def onList : Call α → List α → Answer α × List α
  | .next, items => (.item items.head?, items.tail)
  | .peek, items => (.item items.head?, items)
  | .peekNth n, items => (.item items[n]?, items)
  | .nextIf test, items =>
    (.item (items.head?.filter test), if items.head?.any test then items.tail else items)
  | .nextWhile test, items => (.items (items.takeWhile test), items.dropWhile test)
  | .nextIs test, items => (.verdict (items.head?.any test), items)
  | .nthIs n test, items => (.verdict (items[n]?.any test), items)

def handsOver : Call α → Answer α → List α
  | .next, .item found | .nextIf _, .item found => found.toList
  | .nextWhile _, .items found => found
  | _, _ => []

-- In a run of items that pass a test each of them is looked at, and so is the place behind them.
def lookUps (taken : Nat) (items : List α) : Call α → List LookUp
  | .next => []
  | .peek | .nextIf _ | .nextIs _ => [⟨taken, 0⟩]
  | .peekNth n | .nthIs n _ => [⟨taken, n⟩]
  | .nextWhile test =>
    (List.range' taken ((items.takeWhile test).length + 1)).map fun taken => ⟨taken, 0⟩

end Call

structure Plain (α : Type) where
  handedOver : List α
  rest : List α
  lookUps : List LookUp

def Plain.ofList (items : List α) : Plain α :=
  ⟨[], items, []⟩

def Call.onPlain (call : Call α) (plain : Plain α) : Answer α × Plain α :=
  let (answer, rest) := call.onList plain.rest
  (answer, ⟨plain.handedOver ++ call.handsOver answer, rest,
    plain.lookUps ++ call.lookUps plain.handedOver.length plain.rest⟩)

def perform {σ : Type} (step : Call α → σ → Answer α × σ) : List (Call α) → σ → List (Answer α) × σ
  | [], s => ([], s)
  | call :: rest, s =>
    let (answer, s) := step call s
    let (answers, s) := perform step rest s
    (answer :: answers, s)

section View

variable (l : Lookahead α)

-- The buffer is always a front part of all that is left.
theorem buffer_fill (n : Nat) : (l.fill n).buffer = l.toList.take (max n l.buffer.length) := by
  have split : max n l.buffer.length - l.buffer.length = n - l.buffer.length := by omega
  have whole : l.buffer.take (max n l.buffer.length) = l.buffer :=
    List.take_of_length_le (Nat.le_max_right _ _)
  rw [fill, toList, List.take_append, whole, split]

@[simp] theorem fst_peekNth (n : Nat) : (l.peekNth n).1 = l.toList[n]? := by
  have within : n < max (n + 1) l.buffer.length := by omega
  rw [peekNth, buffer_fill, List.getElem?_take_of_lt within]

@[simp] theorem fst_peek : l.peek.1 = l.toList.head? := by
  rw [peek, fst_peekNth, List.head?_eq_getElem?]

@[simp] theorem toList_peek : l.peek.2.toList = l.toList :=
  toList_peekNth 0 l

@[simp] theorem fst_nthIs (n : Nat) (test : α → Bool) : (l.nthIs n test).1 = l.toList[n]?.any test := by
  rw [nthIs, ← fst_peekNth]

@[simp] theorem fst_nextIs (test : α → Bool) : (l.nextIs test).1 = l.toList.head?.any test := by
  rw [nextIs, fst_nthIs, List.head?_eq_getElem?]

theorem counts_next :
    (l.next.1.toList.length = 1 ∧ l.next.2.pulled = l.pulled ∧
      l.buffer.length = l.next.2.buffer.length + 1) ∨
    (l.buffer.length = 0 ∧ l.next.2.buffer.length = 0 ∧
      l.next.2.pulled = l.pulled + l.next.1.toList.length) := by
  obtain ⟨buffer, source, pulled⟩ := l
  cases buffer with
  | cons item buffer => exact .inl ⟨rfl, rfl, rfl⟩
  | nil =>
    cases source with
    | cons item source => exact .inr ⟨rfl, rfl, rfl⟩
    | nil => exact .inr ⟨rfl, rfl, rfl⟩

theorem nextIf_eq (test : α → Bool) :
    l.nextIf test = if l.toList.head?.any test then l.peek.2.next else (none, l.peek.2) := by
  rw [← fst_nextIs, nextIf]
  have viewed : (l.nextIs test).2 = l.peek.2 := rfl
  split
  next after hit => rw [hit] at viewed ⊢; rw [if_pos rfl, ← viewed]
  next after hit => rw [hit] at viewed ⊢; rw [if_neg (by simp), ← viewed]

@[simp] theorem fst_nextIf (test : α → Bool) : (l.nextIf test).1 = l.toList.head?.filter test := by
  rw [nextIf_eq]
  cases first : l.toList.head? with
  | none => simp
  | some item => by_cases passes : test item <;> simp [passes, fst_next, first, Option.filter]

end View

-- The two steps that all calls are made of: looking ahead, and handing an item over.
namespace Plain

variable {test : α → Bool}

def look (plain : Plain α) (n : Nat) : Plain α :=
  { plain with lookUps := plain.lookUps ++ [⟨plain.handedOver.length, n⟩] }

def take (plain : Plain α) : Plain α :=
  { plain with handedOver := plain.handedOver ++ plain.rest.head?.toList, rest := plain.rest.tail }

theorem onPlain_next (plain : Plain α) :
    Call.next.onPlain plain = (.item plain.rest.head?, plain.take) := by
  simp [Call.onPlain, Call.onList, Call.handsOver, Call.lookUps, take]

theorem onPlain_look (plain : Plain α) (call : Call α) (n : Nat) (answer : Answer α)
    (answers : call.onList plain.rest = (answer, plain.rest)) (keeps : call.handsOver answer = [])
    (looks : call.lookUps plain.handedOver.length plain.rest = [⟨plain.handedOver.length, n⟩]) :
    call.onPlain plain = (answer, plain.look n) := by
  simp [Call.onPlain, answers, keeps, looks, look]

theorem onPlain_nextIf (plain : Plain α) :
    ((Call.nextIf test).onPlain plain).2 =
      if plain.rest.head?.any test then (plain.look 0).take else plain.look 0 := by
  simp only [Call.onPlain, Call.onList, Call.handsOver, Call.lookUps]
  cases first : plain.rest.head? with
  | none => simp [look]
  | some item => by_cases passes : test item <;> simp [passes, look, take, first, Option.filter]

theorem onPlain_nextWhile_of_fails {plain : Plain α} (fails : plain.rest.head?.any test = false) :
    ((Call.nextWhile test).onPlain plain).2 = plain.look 0 := by
  obtain ⟨handedOver, rest, lookUps⟩ := plain
  cases rest with
  | nil => simp [Call.onPlain, Call.onList, Call.handsOver, Call.lookUps, look]
  | cons item rest =>
    have refused : test item = false := fails
    simp [Call.onPlain, Call.onList, Call.handsOver, Call.lookUps, look, refused]

-- The first look is at the item that is handed over, and the others come after it.
theorem onPlain_nextWhile_of_passes {plain : Plain α} (passes : plain.rest.head?.any test) :
    ((Call.nextWhile test).onPlain plain).2 =
      ((Call.nextWhile test).onPlain (plain.look 0).take).2 := by
  obtain ⟨handedOver, rest, lookUps⟩ := plain
  cases rest with
  | nil => cases passes
  | cons item rest =>
    have accepted : test item = true := passes
    simp [Call.onPlain, Call.onList, Call.handsOver, Call.lookUps, look, take, accepted,
      List.range'_succ]

end Plain

section Runs

variable {test : α → Bool} {l after : Lookahead α} {item : α}

theorem any_of_nextIf_none (stops : l.nextIf test = (none, after)) :
    l.toList.head?.any test = false := by
  rw [← Option.isSome_filter, ← fst_nextIf, stops]
  rfl

theorem cons_of_nextIf_some (goes : l.nextIf test = (some item, after)) :
    test item ∧ l.toList = item :: after.toList := by
  have found : l.toList.head?.filter test = some item := by rw [← fst_nextIf, goes]
  obtain ⟨first, passes⟩ := Option.filter_eq_some_iff.1 found
  rw [nextIf_eq, if_pos (by rw [first]; exact passes)] at goes
  have left : after.toList = l.peek.2.toList.tail := by rw [← toList_next, goes]
  obtain ⟨rest, whole⟩ := List.head?_eq_some_iff.1 first
  exact ⟨passes, by rw [left, toList_peek, whole, List.tail_cons]⟩

theorem nextWhile_of_none (stops : l.nextIf test = (none, after)) :
    l.nextWhile test = ([], after) := by
  rw [nextWhile]
  split
  next same => rw [stops] at same; cases same; rfl
  next same => rw [stops] at same; cases same

theorem nextWhile_of_some (goes : l.nextIf test = (some item, after)) :
    l.nextWhile test = (item :: (after.nextWhile test).1, (after.nextWhile test).2) := by
  rw [nextWhile]
  split
  next same => rw [goes] at same; cases same
  next same => rw [goes] at same; cases same; rfl

theorem fst_nextWhile (l : Lookahead α) : (l.nextWhile test).1 = l.toList.takeWhile test := by
  induction l using nextWhile.induct test with
  | case1 l after stops =>
    have fails := any_of_nextIf_none stops
    rw [nextWhile_of_none stops]
    cases whole : l.toList with
    | nil => rfl
    | cons item rest =>
      have refused : test item = false := by simpa [whole] using fails
      rw [List.takeWhile_cons_of_neg (by simp [refused])]
  | case2 l item after goes _ _ _ _ ih =>
    obtain ⟨passes, whole⟩ := cons_of_nextIf_some goes
    rw [nextWhile_of_some goes, whole, List.takeWhile_cons_of_pos passes, ih]

theorem toList_nextWhile (l : Lookahead α) :
    (l.nextWhile test).2.toList = l.toList.dropWhile test := by
  induction l using nextWhile.induct test with
  | case1 l after stops =>
    have fails := any_of_nextIf_none stops
    have left : after.toList = l.toList := by
      have stays := nextIf_eq l test
      rw [stops, fails, if_neg (by decide)] at stays
      cases stays
      exact toList_peek l
    rw [nextWhile_of_none stops, left]
    cases whole : l.toList with
    | nil => rfl
    | cons item rest =>
      have refused : test item = false := by simpa [whole] using fails
      rw [List.dropWhile_cons_of_neg (by simp [refused])]
  | case2 l item after goes _ _ _ _ ih =>
    obtain ⟨passes, whole⟩ := cons_of_nextIf_some goes
    rw [nextWhile_of_some goes, whole, List.dropWhile_cons_of_pos passes, ih]

end Runs

/-- The items are those handed over and then those that are left, and as many have been pulled as had to
be. -/
structure Refines (items : List α) (l : Lookahead α) (plain : Plain α) : Prop where
  sameRest : l.toList = plain.rest
  inOrder : items = plain.handedOver ++ plain.rest
  held : l.pulled = plain.handedOver.length + l.buffer.length
  pulled : l.pulled = max plain.handedOver.length (furthest items.length plain.lookUps)

theorem refines_ofList (items : List α) : Refines items (ofList items) (.ofList items) :=
  ⟨rfl, rfl, rfl, rfl⟩

namespace Refines

variable {items : List α} {l : Lookahead α} {plain : Plain α}

theorem total (refines : Refines items l plain) :
    items.length = plain.handedOver.length + (l.buffer.length + l.source.length) := by
  rw [refines.inOrder, ← refines.sameRest, toList, List.length_append, List.length_append]

theorem peekNth (refines : Refines items l plain) (n : Nat) :
    Refines items (l.peekNth n).2 (plain.look n) where
  sameRest := (toList_peekNth n l).trans refines.sameRest
  inOrder := refines.inOrder
  held := by
    have held := refines.held
    simp only [Lookahead.peekNth, fill, Plain.look, List.length_append]
    omega
  pulled := by
    have total := refines.total
    have held := refines.held
    have pulled := refines.pulled
    simp only [Lookahead.peekNth, fill, Plain.look, furthest_append, furthest, LookUp.reach,
      List.length_take]
    omega

theorem next (refines : Refines items l plain) : Refines items l.next.2 plain.take := by
  have held := refines.held
  have pulled := refines.pulled
  have counts := l.counts_next
  have handedOver : plain.take.handedOver.length =
      plain.handedOver.length + l.next.1.toList.length := by
    rw [fst_next, refines.sameRest, Plain.take, List.length_append]
  have sameLookUps : plain.take.lookUps = plain.lookUps := rfl
  refine ⟨?_, ?_, ?_, ?_⟩
  · rw [toList_next, refines.sameRest]
    rfl
  · rw [refines.inOrder]
    cases rest : plain.rest <;> simp [Plain.take, rest]
  · omega
  · rw [sameLookUps]
    omega

theorem nextIf (refines : Refines items l plain) (test : α → Bool) :
    Refines items (l.nextIf test).2 ((Call.nextIf test).onPlain plain).2 := by
  have looked : Refines items l.peek.2 (plain.look 0) := refines.peekNth 0
  rw [nextIf_eq, Plain.onPlain_nextIf, refines.sameRest]
  by_cases passes : plain.rest.head?.any test
  next =>
    rw [if_pos passes, if_pos passes]
    exact looked.next
  next =>
    rw [if_neg passes, if_neg passes]
    exact looked

theorem nextWhile (refines : Refines items l plain) (test : α → Bool) :
    Refines items (l.nextWhile test).2 ((Call.nextWhile test).onPlain plain).2 := by
  induction l using nextWhile.induct test generalizing plain with
  | case1 l after stops =>
    have fails := any_of_nextIf_none stops
    have step := refines.nextIf test
    rw [refines.sameRest] at fails
    rw [stops, Plain.onPlain_nextIf, if_neg (by simp [fails])] at step
    rw [nextWhile_of_none stops, Plain.onPlain_nextWhile_of_fails fails]
    exact step
  | case2 l item after goes _ _ _ _ ih =>
    obtain ⟨isPassed, whole⟩ := cons_of_nextIf_some goes
    have passes : plain.rest.head?.any test := by
      rw [← refines.sameRest, whole]
      exact isPassed
    have step := refines.nextIf test
    rw [goes, Plain.onPlain_nextIf, if_pos passes] at step
    rw [nextWhile_of_some goes, Plain.onPlain_nextWhile_of_passes passes]
    exact ih step

end Refines

theorem run_refines {items : List α} {l : Lookahead α} {plain : Plain α}
    (refines : Refines items l plain) (call : Call α) :
    (call.run l).1 = (call.onPlain plain).1 ∧ Refines items (call.run l).2 (call.onPlain plain).2 := by
  have same := refines.sameRest
  cases call with
  | next =>
    rw [Plain.onPlain_next]
    exact ⟨congrArg Answer.item (same ▸ fst_next l), refines.next⟩
  | peek =>
    rw [Plain.onPlain_look plain .peek 0 _ rfl rfl rfl]
    exact ⟨congrArg Answer.item (same ▸ fst_peek l), refines.peekNth 0⟩
  | peekNth n =>
    rw [Plain.onPlain_look plain (.peekNth n) n _ rfl rfl rfl]
    exact ⟨congrArg Answer.item (same ▸ fst_peekNth l n), refines.peekNth n⟩
  | nextIf test => exact ⟨congrArg Answer.item (same ▸ fst_nextIf l test), refines.nextIf test⟩
  | nextWhile test => exact ⟨congrArg Answer.items (same ▸ fst_nextWhile l), refines.nextWhile test⟩
  | nextIs test =>
    rw [Plain.onPlain_look plain (.nextIs test) 0 _ rfl rfl rfl]
    exact ⟨congrArg Answer.verdict (same ▸ fst_nextIs l test), refines.peekNth 0⟩
  | nthIs n test =>
    rw [Plain.onPlain_look plain (.nthIs n test) n _ rfl rfl rfl]
    exact ⟨congrArg Answer.verdict (same ▸ fst_nthIs l n test), refines.peekNth n⟩

theorem perform_refines {items : List α} {l : Lookahead α} {plain : Plain α}
    (refines : Refines items l plain) (calls : List (Call α)) :
    (perform Call.run calls l).1 = (perform Call.onPlain calls plain).1 ∧
      Refines items (perform Call.run calls l).2 (perform Call.onPlain calls plain).2 := by
  induction calls generalizing l plain with
  | nil => exact ⟨rfl, refines⟩
  | cons call rest ih =>
    obtain ⟨answer, step⟩ := run_refines refines call
    obtain ⟨answers, further⟩ := ih step
    refine ⟨?_, further⟩
    simp only [perform]
    rw [answer, answers]

theorem Refines.removes {items : List α} {l : Lookahead α} {plain : Plain α}
    (refines : Refines items l plain) (call : Call α) :
    l.toList = call.handsOver (call.run l).1 ++ (call.run l).2.toList := by
  obtain ⟨answer, step⟩ := run_refines refines call
  have both : plain.handedOver ++ plain.rest =
      plain.handedOver ++ (call.handsOver (call.onPlain plain).1 ++ (call.onPlain plain).2.rest) := by
    rw [← List.append_assoc]
    exact refines.inOrder.symm.trans step.inOrder
  rw [refines.sameRest, answer, step.sameRest]
  exact List.append_cancel_left both

/-- Whatever has been called in whatever order, all answers are those of the plain list, and the same
items are left. Each item has been handed over, once and in order, or is left; as many have been pulled
as were taken, or as the furthest look needed. A call removes the items that it hands over, and only
those. -/
theorem lookahead_refines_list (items : List α) (calls : List (Call α)) :
    ∃ plain, perform Call.onPlain calls (.ofList items) =
        ((perform Call.run calls (ofList items)).1, plain) ∧
      (perform Call.run calls (ofList items)).2.toList = plain.rest ∧
      items = plain.handedOver ++ plain.rest ∧
      (perform Call.run calls (ofList items)).2.pulled =
        max plain.handedOver.length (furthest items.length plain.lookUps) ∧
      ∀ call : Call α, (perform Call.run calls (ofList items)).2.toList =
        call.handsOver (call.run (perform Call.run calls (ofList items)).2).1 ++
          (call.run (perform Call.run calls (ofList items)).2).2.toList := by
  obtain ⟨answers, refines⟩ := perform_refines (refines_ofList items) calls
  refine ⟨(perform Call.onPlain calls (.ofList items)).2, ?_, refines.sameRest, refines.inOrder,
    refines.pulled, fun call => refines.removes call⟩
  rw [answers]

end Lookahead

end MiniPascal
