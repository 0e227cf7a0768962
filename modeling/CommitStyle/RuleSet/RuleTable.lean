import CommitStyle.Rule.Setting

/-!
# Tables of rule settings

A table gives a setting to each of its rule names and is sorted by name. Two tables with the same
settings are equal.
-/

namespace CommitStyle

def Ascending (entries : List (String × Setting)) : Prop := entries.Pairwise (·.1 < ·.1)

structure RuleTable where
  entries : List (String × Setting)
  ascending : Ascending entries
  deriving DecidableEq

namespace RuleTable

def empty : RuleTable := ⟨[], .nil⟩

instance : EmptyCollection RuleTable := ⟨empty⟩

instance : Inhabited RuleTable := ⟨empty⟩

def insertEntry (name : String) (setting : Setting) :
    List (String × Setting) → List (String × Setting)
  | [] => [(name, setting)]
  | (other, held) :: rest =>
    if name < other then (name, setting) :: (other, held) :: rest
    else if name = other then (name, setting) :: rest
    else (other, held) :: insertEntry name setting rest

theorem forall_mem_insertEntry {name : String} {setting : Setting}
    {entries : List (String × Setting)} {p : String → Prop} (hn : p name)
    (h : ∀ e ∈ entries, p e.1) : ∀ e ∈ insertEntry name setting entries, p e.1 := by
  induction entries with
  | nil => simpa [insertEntry] using hn
  | cons e rest ih =>
    obtain ⟨other, held⟩ := e
    have hr : ∀ e ∈ rest, p e.1 := fun e he => h e (.tail _ he)
    have ho : p other := h (other, held) (.head _)
    unfold insertEntry
    split
    · intro e he
      rcases List.mem_cons.1 he with rfl | he
      · exact hn
      · exact h e he
    · split
      · intro e he
        rcases List.mem_cons.1 he with rfl | he
        · exact hn
        · exact hr e he
      · intro e he
        rcases List.mem_cons.1 he with rfl | he
        · exact ho
        · exact ih hr e he

theorem ascending_insertEntry (name : String) (setting : Setting)
    {entries : List (String × Setting)} (h : Ascending entries) :
    Ascending (insertEntry name setting entries) := by
  induction entries with
  | nil => exact List.pairwise_singleton _ _
  | cons e rest ih =>
    obtain ⟨other, held⟩ := e
    obtain ⟨ho, hr⟩ := List.pairwise_cons.1 h
    unfold insertEntry
    split
    next hlt =>
      refine List.pairwise_cons.2 ⟨fun e he => ?_, h⟩
      rcases List.mem_cons.1 he with rfl | he
      · exact hlt
      · exact String.lt_trans hlt (ho e he)
    next hlt =>
      split
      next heq => exact List.pairwise_cons.2 ⟨fun e he => heq ▸ ho e he, hr⟩
      next hne =>
        have hgt : other < name := Std.lt_of_le_of_ne (String.not_lt.1 hlt) (Ne.symm hne)
        exact List.pairwise_cons.2 ⟨forall_mem_insertEntry hgt ho, ih hr⟩

def insert (table : RuleTable) (name : String) (setting : Setting) : RuleTable :=
  ⟨insertEntry name setting table.entries, ascending_insertEntry name setting table.ascending⟩

def find? (table : RuleTable) (name : String) : Option Setting := table.entries.lookup name

/-- A table that gives each name the setting of its last entry. -/
def ofList (entries : List (String × Setting)) : RuleTable :=
  entries.foldl (fun table (name, setting) => table.insert name setting) empty

/-- The settings of both tables; those of the overlay win. -/
def merge (base overlay : RuleTable) : RuleTable :=
  overlay.entries.foldl (fun table (name, setting) => table.insert name setting) base

end RuleTable

end CommitStyle
