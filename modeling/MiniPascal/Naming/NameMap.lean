set_option autoImplicit false

namespace MiniPascal

structure NameMap (α : Type) where
  entries : List (String × α)
  ordered : entries.Pairwise (fun a b => a.1 < b.1)

namespace NameMap

variable {α : Type}

def empty : NameMap α :=
  ⟨[], .nil⟩

instance : Inhabited (NameMap α) := ⟨empty⟩

def insertEntry (name : String) (value : α) : List (String × α) → List (String × α)
  | [] => [(name, value)]
  | entry :: rest =>
    if name < entry.1 then (name, value) :: entry :: rest
    else if name = entry.1 then (name, value) :: rest
    else entry :: insertEntry name value rest

theorem mem_insertEntry {name : String} {value : α} {entry : String × α}
    {entries : List (String × α)} (h : entry ∈ insertEntry name value entries) :
    entry = (name, value) ∨ entry ∈ entries := by
  induction entries with
  | nil => simpa [insertEntry] using h
  | cons first rest ih =>
    unfold insertEntry at h
    split at h
    next => simpa using h
    next =>
      split at h
      next =>
        rcases List.mem_cons.1 h with same | old
        · exact .inl same
        · exact .inr (List.mem_cons_of_mem _ old)
      next =>
        rcases List.mem_cons.1 h with same | later
        · exact .inr (same ▸ List.mem_cons_self)
        · exact (ih later).imp_right (List.mem_cons_of_mem _)

theorem ordered_insertEntry (name : String) (value : α) {entries : List (String × α)}
    (h : entries.Pairwise (fun a b => a.1 < b.1)) :
    (insertEntry name value entries).Pairwise (fun a b => a.1 < b.1) := by
  induction entries with
  | nil => simp [insertEntry]
  | cons first rest ih =>
    obtain ⟨least, tail⟩ := List.pairwise_cons.1 h
    unfold insertEntry
    split
    next before =>
      refine List.pairwise_cons.2 ⟨fun entry mem => ?_, h⟩
      rcases List.mem_cons.1 mem with same | later
      · exact same ▸ before
      · exact String.lt_trans before (least entry later)
    next notBefore =>
      split
      next same => exact List.pairwise_cons.2 ⟨fun entry mem => same ▸ least entry mem, tail⟩
      next differ =>
        refine List.pairwise_cons.2 ⟨fun entry mem => ?_, ih tail⟩
        rcases mem_insertEntry mem with same | old
        · rw [same]
          by_cases after : first.1 < name
          · exact after
          · exact absurd (String.le_antisymm (String.not_lt.1 after) (String.not_lt.1 notBefore)) differ
        · exact least entry old

def insert (map : NameMap α) (name : String) (value : α) : NameMap α :=
  ⟨insertEntry name value map.entries, ordered_insertEntry name value map.ordered⟩

def lookupEntry (name : String) : List (String × α) → Option α
  | [] => none
  | entry :: rest => if name = entry.1 then some entry.2 else lookupEntry name rest

def lookup (map : NameMap α) (name : String) : Option α :=
  lookupEntry name map.entries

def names (map : NameMap α) : List String :=
  map.entries.map (·.1)

def size (map : NameMap α) : Nat :=
  map.entries.length

def isEmpty (map : NameMap α) : Bool :=
  map.entries.isEmpty

@[simp] theorem lookup_empty (name : String) : (empty : NameMap α).lookup name = none := rfl

theorem lookup_insertEntry (name other : String) (value : α) (entries : List (String × α)) :
    lookupEntry other (insertEntry name value entries) =
      if other = name then some value else lookupEntry other entries := by
  induction entries with
  | nil => simp [insertEntry, lookupEntry]
  | cons first rest ih =>
    unfold insertEntry
    split
    next => rfl
    next =>
      split
      next key => by_cases same : other = name <;> simp_all [lookupEntry]
      next differ => by_cases same : other = first.1 <;> simp_all [lookupEntry, Ne.symm]

@[simp] theorem lookup_insert (map : NameMap α) (name other : String) (value : α) :
    (map.insert name value).lookup other = if other = name then some value else map.lookup other :=
  lookup_insertEntry name other value map.entries

theorem lookupEntry_eq_none {name : String} {entries : List (String × α)}
    (above : ∀ entry ∈ entries, name < entry.1) : lookupEntry name entries = none := by
  induction entries with
  | nil => rfl
  | cons first rest ih =>
    have differ : name ≠ first.1 := fun same =>
      String.lt_irrefl name (same ▸ above first List.mem_cons_self)
    rw [lookupEntry, if_neg differ]
    exact ih fun entry mem => above entry (List.mem_cons_of_mem _ mem)

theorem entries_eq_of_lookupEntry {these those : List (String × α)}
    (ordered : these.Pairwise (fun a b => a.1 < b.1))
    (ordered' : those.Pairwise (fun a b => a.1 < b.1))
    (same : ∀ name, lookupEntry name these = lookupEntry name those) : these = those := by
  induction these generalizing those with
  | nil =>
    cases those with
    | nil => rfl
    | cons first rest => simpa [lookupEntry] using same first.1
  | cons first rest ih =>
    cases those with
    | nil => simpa [lookupEntry] using same first.1
    | cons first' rest' =>
      obtain ⟨least, tail⟩ := List.pairwise_cons.1 ordered
      obtain ⟨least', tail'⟩ := List.pairwise_cons.1 ordered'
      -- Each list knows the other's first name, so neither can start below the other.
      have notBelow : ¬ first.1 < first'.1 := fun below => by
        have missing : lookupEntry first.1 (first' :: rest') = none :=
          lookupEntry_eq_none fun entry mem =>
            (List.mem_cons.1 mem).elim (· ▸ below) fun later => String.lt_trans below (least' entry later)
        simpa [lookupEntry] using (same first.1).trans missing
      have notAbove : ¬ first'.1 < first.1 := fun below => by
        have missing : lookupEntry first'.1 (first :: rest) = none :=
          lookupEntry_eq_none fun entry mem =>
            (List.mem_cons.1 mem).elim (· ▸ below) fun later => String.lt_trans below (least entry later)
        simpa [lookupEntry] using missing.symm.trans (same first'.1)
      have key : first.1 = first'.1 :=
        String.le_antisymm (String.not_lt.1 notAbove) (String.not_lt.1 notBelow)
      have value : first.2 = first'.2 := by simpa [lookupEntry, key] using same first.1
      have rests : rest = rest' := by
        refine ih tail tail' fun name => ?_
        by_cases here : name = first.1
        · rw [lookupEntry_eq_none fun entry mem => here ▸ least entry mem,
            lookupEntry_eq_none fun entry mem => here ▸ key ▸ least' entry mem]
        · simpa [lookupEntry, here, key ▸ here] using same name
      rw [rests, Prod.ext key value]

theorem mem_names_iff {map : NameMap α} {name : String} :
    name ∈ map.names ↔ (map.lookup name).isSome := by
  unfold names lookup
  induction map.entries with
  | nil => simp [lookupEntry]
  | cons first rest ih => by_cases same : name = first.1 <;> simp_all [lookupEntry]

theorem ext_lookup {these those : NameMap α} (same : ∀ name, these.lookup name = those.lookup name) :
    these = those := by
  cases these
  cases those
  simp only [mk.injEq]
  exact entries_eq_of_lookupEntry ‹_› ‹_› same

end NameMap

end MiniPascal
