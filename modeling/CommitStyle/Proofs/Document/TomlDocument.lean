import CommitStyle.Proofs.Document.TomlKeys
import CommitStyle.Proofs.Document.TomlValues

/-!
# TOML documents read back

A document of plain values and of tables that hold plain values comes back from its print, with the
tables behind the values. It is read line by line into statements, and these are put together again.
-/

namespace CommitStyle.Document.Toml

open Reader

/-- The keys of a table are distinct, and its values are plain and nest no deeper than they may. -/
structure IsSection (entries : List (String × Tree)) : Prop where
  nodup : (entries.map (·.1)).Nodup
  plain : ∀ entry ∈ entries, ∃ nesting < depthLimit, entry.2.IsPlain nesting

/-- The keys of a document are distinct; its values are plain, or tables of plain values. -/
structure IsDocument (entries : List (String × Tree)) : Prop where
  nodup : (entries.map (·.1)).Nodup
  plain : ∀ entry ∈ entries, isTable entry.2 = false → ∃ nesting < depthLimit, entry.2.IsPlain nesting
  isSection : ∀ entry ∈ entries, ∀ inner, entry.2 = .table inner → IsSection inner

/-! ### Lines -/

structure Line where
  text : List Char
  statement : Statement

namespace Line

def ofAssignment (entry : String × Tree) : Line :=
  { text := (printKey entry.1 ++ " = " ++ printValue entry.2 ++ "\n").toList
    statement := .assignment [entry.1] entry.2 }

/-- A header, with the empty line above it. -/
def ofHeader (name : String) : Line :=
  { text := ("\n[" ++ printKey name ++ "]\n").toList
    statement := .header [name] }

def ofSection (entry : String × Tree) : List Line :=
  ofHeader entry.1 :: (entry.2.toTable?.getD []).map ofAssignment

def ofDocument (entries : List (String × Tree)) : List Line :=
  (entries.filter (!isTable ·.2)).map ofAssignment ++
    (entries.filter (isTable ·.2)).flatMap ofSection

/-- A line that the reader takes off the front of a document, followed by the lines below it. -/
structure ReadsBack (line : Line) : Prop where
  run : ∀ (fuel : Nat) (below : List Char) (statements : List Statement),
    line.text.length ≤ fuel → (Toml.statements fuel).run below = some (statements, []) →
    (Toml.statements (fuel + 1)).run (line.text ++ below) =
      some (line.statement :: statements, [])
  ne_nil : line.text ≠ []
  no_return : '\r' ∉ line.text
  no_mark : ∀ c, line.text.head? = some c → c ≠ '\ufeff'

end Line

lemma toList_printAssignments (entries : List (String × Tree)) :
    (printAssignments entries).toList = (entries.map Line.ofAssignment).flatMap (·.text) := by
  rw [printAssignments, String.toList_join, List.flatMap_map, List.flatMap_map]
  rfl

lemma toList_write (entries : List (String × Tree)) :
    (write entries).toList = (Line.ofDocument entries).flatMap (·.text) := by
  rw [write, String.toList_append, toList_printAssignments, String.toList_join, Line.ofDocument,
    List.flatMap_append, List.flatMap_map, List.flatMap_map, List.flatMap_assoc]
  have hsection : ∀ entry : String × Tree,
      ("\n[" ++ printKey entry.1 ++ "]\n" ++ printAssignments (entry.2.toTable?.getD [])).toList =
        (Line.ofSection entry).flatMap (·.text) := by
    intro entry
    simp [Line.ofSection, Line.ofHeader, toList_printAssignments]
  exact congrArg _ (List.flatMap_congr fun entry _ => hsection entry)

lemma run_lineEnd (rest : List Char) : lineEnd.run ('\n' :: rest) = some ((), rest) := by
  rw [lineEnd, skipSpace, run_bind_of (run_skipWhile_of_stops (stops_cons.2 rfl)), run_bind_of (run_peek? _)]
  simp [run_peek?, run_expect_cons]

lemma stops_outside_printKey (name : String) (rest : List Char) :
    Stops isOutside ((printKey name).toList ++ rest) := by
  refine stops_printKey (fun c hc => ?_) name rest
  simp only [isOutside, isSpace, Bool.or_eq_true, beq_iff_eq] at hc
  rcases hc with (((rfl | rfl) | rfl) | rfl) | rfl <;> decide

lemma run_statements_cons {fuel : Nat} (blanks : List Char) {text below : List Char}
    {first : Statement} {more : List Statement} (hb : ∀ c ∈ blanks, (isSpace c || c == '\n') = true)
    (ht : Stops isOutside text) (hne : text ≠ [])
    (h : (statement (fuel + 1)).run text = some (first, '\n' :: below))
    (hbelow : (statements (fuel + 1)).run below = some (more, [])) :
    (statements (fuel + 2)).run (blanks ++ text) = some (first :: more, []) := by
  rw [statements, run_bind_of (run_skipFiller_outside blanks hb ht fuel), run_bind_of (run_peek? _), List.head?_eq_some_head hne]
  change (statement (fuel + 1) >>= _).run text = _
  rw [run_bind_of h, run_bind_of (run_lineEnd below), run_bind_of hbelow]
  rfl

lemma run_statement_assignment {name : String} {tree : Tree} (ht : ReadsBack depthLimit tree)
    {fuel : Nat} (hk : name.toList.length + 2 ≤ fuel)
    (hv : (printValue tree).toList.length + 1 ≤ fuel) (below : List Char) :
    (statement fuel).run ((printKey name).toList ++
        ([' '] ++ '=' :: ([' '] ++ ((printValue tree).toList ++ '\n' :: below)))) =
      some (.assignment [name] tree, '\n' :: below) := by
  have hvalue := ht fuel ('\n' :: below) hv (stops_cons.2 rfl)
  obtain ⟨fuel, rfl⟩ : ∃ k, fuel = k + 1 := Nat.exists_eq_succ_of_ne_zero (by omega)
  have hbracket : Stops (· == '[') _ :=
    stops_beq_printKey (by decide) name
      ([' '] ++ '=' :: ([' '] ++ ((printValue tree).toList ++ '\n' :: below)))
  have hkey : (key (fuel + 1)).run ((printKey name).toList ++
      ([' '] ++ '=' :: ([' '] ++ ((printValue tree).toList ++ '\n' :: below)))) = _ :=
    run_key name [' '] (by omega) (List.all_eq_true.1 rfl) (stops_cons.2 rfl)
      (stops_cons.2 rfl) (stops_cons.2 rfl)
  have hspace : skipSpace.run ([' '] ++ ((printValue tree).toList ++ '\n' :: below)) =
      some ((), (printValue tree).toList ++ '\n' :: below) :=
    run_skipWhile [' '] (List.all_eq_true.1 rfl)
      (stops_mono (fun c hc => by simp_all [isOutside]) (stops_printValue tree _))
  rw [statement, run_bind_of (run_accept_of_stops hbracket _), if_neg Bool.false_ne_true,
    run_bind_of (run_accept_of_stops hbracket _), if_neg Bool.false_ne_true, run_bind_of hkey,
    run_bind_of (run_expect_cons '=' _), run_bind_of hspace, run_bind_of hvalue]
  rfl

lemma run_statement_header (name : String) {fuel : Nat} (hk : name.toList.length + 2 ≤ fuel)
    (below : List Char) :
    (statement fuel).run ('[' :: ((printKey name).toList ++ ']' :: '\n' :: below)) =
      some (.header [name], '\n' :: below) := by
  obtain ⟨fuel, rfl⟩ : ∃ k, fuel = k + 1 := Nat.exists_eq_succ_of_ne_zero (by omega)
  have hbracket : Stops (· == '[') _ :=
    stops_beq_printKey (by decide) name (']' :: '\n' :: below)
  have htwo : ¬ ['[', '['] <+: '[' :: ((printKey name).toList ++ ']' :: '\n' :: below) := by
    rintro ⟨rest, hr⟩
    simp only [List.cons_append, List.nil_append, List.cons.injEq, true_and] at hr
    simp [← hr] at hbracket
  have hkey : (key (fuel + 1)).run ((printKey name).toList ++ ']' :: '\n' :: below) = _ :=
    run_key name [] (by omega) (by simp) (stops_cons.2 rfl) (stops_cons.2 rfl) (stops_cons.2 rfl)
  rw [statement, run_bind_of (run_accept_of_not htwo), if_neg Bool.false_ne_true,
    run_bind_of (run_accept_cons '[' _), if_pos rfl, run_bind_of hkey,
    run_bind_of (run_expect_cons ']' _)]
  rfl

lemma readsBack_ofAssignment {name : String} {tree : Tree} {nesting : Nat}
    (ht : tree.IsPlain nesting) (hn : nesting < depthLimit) :
    (Line.ofAssignment (name, tree)).ReadsBack where
  run fuel below statements hf hbelow := by
    have hlength := length_le_length_printKey name
    have htext : (Line.ofAssignment (name, tree)).text ++ below = (printKey name).toList ++
        ([' '] ++ '=' :: ([' '] ++ ((printValue tree).toList ++ '\n' :: below))) := by
      simp [Line.ofAssignment]
    have hsum : (Line.ofAssignment (name, tree)).text.length =
        (printKey name).toList.length + (printValue tree).toList.length + 4 := by
      simp [Line.ofAssignment]
      omega
    obtain ⟨fuel, rfl⟩ : ∃ k, fuel = k + 1 := Nat.exists_eq_succ_of_ne_zero (by omega)
    have hstatement := run_statement_assignment (readsBack_of_isPlain ht hn)
      (by omega : name.toList.length + 2 ≤ fuel + 1) (by omega) below
    rw [htext]
    exact run_statements_cons [] (by simp) (stops_outside_printKey name _) (by simp) hstatement
      hbelow
  ne_nil := by simp [Line.ofAssignment]
  no_return := by
    simp [Line.ofAssignment, return_not_mem_printKey, return_not_mem_printValue ht]
  no_mark := by
    have hstop : Stops (· == '\ufeff') (Line.ofAssignment (name, tree)).text := by
      simp only [Line.ofAssignment, String.toList_append, List.append_assoc]
      exact stops_beq_printKey (by decide) name _
    exact fun c hc => by simpa using hstop c hc

lemma readsBack_ofHeader (name : String) : (Line.ofHeader name).ReadsBack where
  run fuel below statements hf hbelow := by
    have hlength := length_le_length_printKey name
    have htext : (Line.ofHeader name).text ++ below =
        ['\n'] ++ '[' :: ((printKey name).toList ++ ']' :: '\n' :: below) := by
      simp [Line.ofHeader]
    have hsum : (Line.ofHeader name).text.length = (printKey name).toList.length + 4 := by
      simp [Line.ofHeader]
    obtain ⟨fuel, rfl⟩ : ∃ k, fuel = k + 1 := Nat.exists_eq_succ_of_ne_zero (by omega)
    have hstatement := run_statement_header name
      (by omega : name.toList.length + 2 ≤ fuel + 1) below
    rw [htext]
    exact run_statements_cons ['\n'] (List.all_eq_true.1 rfl) (stops_cons.2 rfl) (by simp) hstatement
      hbelow
  ne_nil := by simp [Line.ofHeader]
  no_return := by simp [Line.ofHeader, return_not_mem_printKey]
  no_mark := by
    intro c hc
    obtain rfl : '\n' = c := by simpa [Line.ofHeader] using hc
    decide

lemma readsBack_of_mem_ofDocument {entries : List (String × Tree)} (h : IsDocument entries)
    {line : Line} (hl : line ∈ Line.ofDocument entries) : line.ReadsBack := by
  rw [Line.ofDocument, List.mem_append, List.mem_map, List.mem_flatMap] at hl
  rcases hl with ⟨entry, he, rfl⟩ | ⟨⟨name, tree⟩, he, hl⟩
  · obtain ⟨hm, ht⟩ := List.mem_filter.1 he
    obtain ⟨nesting, hn, hp⟩ := h.plain entry hm (by simpa using ht)
    exact readsBack_ofAssignment hp hn
  · obtain ⟨hm, ht⟩ := List.mem_filter.1 he
    rw [Line.ofSection, List.mem_cons, List.mem_map] at hl
    rcases hl with rfl | ⟨entry, hi, rfl⟩
    · exact readsBack_ofHeader name
    · cases tree with
      | table inner =>
        obtain ⟨nesting, hn, hp⟩ := (h.isSection _ hm inner rfl).plain entry hi
        exact readsBack_ofAssignment hp hn
      | _ => simp [isTable] at ht

lemma run_statements {lines : List Line} (h : ∀ line ∈ lines, line.ReadsBack) {fuel : Nat}
    (hf : (lines.flatMap (·.text)).length + 2 ≤ fuel) :
    (statements fuel).run (lines.flatMap (·.text)) = some (lines.map (·.statement), []) := by
  induction lines generalizing fuel with
  | nil =>
    obtain ⟨fuel, rfl⟩ : ∃ k, fuel = k + 2 := Nat.exists_eq_add_of_le' (by omega)
    have hfiller : (skipFiller (fuel + 1)).run [] = some ((), []) :=
      run_skipFiller [] (by simp) (stops_nil _) (stops_nil _) fuel
    rw [List.flatMap_nil, statements, run_bind_of hfiller]
    rfl
  | cons line lines ih =>
    rw [List.flatMap_cons, List.length_append] at hf
    have hline := h line (.head _)
    have hpos := List.length_pos_of_ne_nil hline.ne_nil
    obtain ⟨fuel, rfl⟩ : ∃ k, fuel = k + 1 := Nat.exists_eq_succ_of_ne_zero (by omega)
    have hbelow := ih (fun line hl => h line (.tail _ hl)) (by omega : _ ≤ fuel)
    exact hline.run fuel _ _ (by omega) hbelow

/-! ### Assembly -/

section Assembly

def leaves (entries : List (String × Tree)) : Entries :=
  entries.map fun entry => (entry.1, .leaf entry.2)

def nodeOf : Tree → Node
  | .table inner => .table .opened (leaves inner)
  | tree => .leaf tree

lemma find?_eq_none {entries : Entries} {name : String} (h : name ∉ entries.map (·.1)) :
    entries.find? name = none := by
  rw [Entries.find?, List.lookup_eq_none_iff]
  intro entry he
  have hne : name ≠ entry.1 := fun hn => h (hn ▸ List.mem_map_of_mem he)
  simpa using hne

lemma put_of_not_mem {entries : Entries} {name : String} (h : name ∉ entries.map (·.1)) (node : Node) :
    entries.put name node = entries ++ [(name, node)] := by
  induction entries with
  | nil => rfl
  | cons entry entries ih =>
    rw [List.map_cons, List.mem_cons, not_or] at h
    rw [Entries.put, if_neg (Ne.symm h.1), ih h.2]
    rfl

lemma find?_concat {entries : Entries} {name : String} (h : name ∉ entries.map (·.1)) (node : Node) :
    Entries.find? name (entries ++ [(name, node)]) = some node := by
  have hnone := find?_eq_none h
  rw [Entries.find?] at hnone ⊢
  rw [List.lookup_append, hnone]
  simp

lemma put_concat {entries : Entries} {name : String} (h : name ∉ entries.map (·.1))
    (old node : Node) :
    Entries.put name node (entries ++ [(name, old)]) = entries ++ [(name, node)] := by
  induction entries with
  | nil => simp [Entries.put]
  | cons entry entries ih =>
    rw [List.map_cons, List.mem_cons, not_or] at h
    rw [List.cons_append, Entries.put, if_neg (Ne.symm h.1), ih h.2]
    rfl

lemma assign_of_not_mem {entries : Entries} {name : String} (h : name ∉ entries.map (·.1))
    (tree : Tree) : assign false name tree .opened entries = some (entries ++ [(name, .leaf tree)]) := by
  rw [assign, find?_eq_none h, put_of_not_mem h]
  rfl

lemma add_assignment {entries : Entries} {name : String} (h : name ∉ entries.map (·.1))
    (tree : Tree) :
    Assembly.add { entries, path := [] } (.assignment [name] tree) =
      some { entries := entries ++ [(name, .leaf tree)], path := [] } := by
  change (assign false name tree .opened entries).bind _ = _
  rw [assign_of_not_mem h]
  rfl

lemma add_header {entries : Entries} {name : String} (h : name ∉ entries.map (·.1))
    (path : List String) :
    Assembly.add { entries, path } (.header [name]) =
      some { entries := entries ++ [(name, .table .opened [])], path := [name] } := by
  change (openTable name .opened entries).bind _ = _
  rw [openTable, find?_eq_none h, put_of_not_mem h]
  rfl

lemma add_assignment_below {entries inner : Entries} {name key : String}
    (h : name ∉ entries.map (·.1)) (hk : key ∉ inner.map (·.1)) (tree : Tree) :
    Assembly.add { entries := entries ++ [(name, .table .opened inner)], path := [name] }
        (.assignment [key] tree) =
      some {
        entries := entries ++ [(name, .table .opened (inner ++ [(key, .leaf tree)]))]
        path := [name] } := by
  have hchange : below .implied [name] (assignPath [] key tree) .opened
      (entries ++ [(name, .table .opened inner)]) =
        some (entries ++ [(name, .table .opened (inner ++ [(key, .leaf tree)]))]) := by
    rw [below]
    beta_reduce
    rw [find?_concat h]
    change (assign false key tree .opened inner).bind _ = _
    rw [assign_of_not_mem hk]
    change some _ = _
    rw [put_concat h]
  change (below .implied [name] (assignPath [] key tree) .opened _).bind _ = _
  rw [hchange]
  rfl

/-- Assignments with distinct keys add their values one behind the other, wherever they go to. The
induction is on the assignments; `place` is the document with the table at hand in it. -/
lemma foldlM_assignments (place : Entries → Assembly)
    (hplace : ∀ inner key tree, key ∉ inner.map (·.1) →
      (place inner).add (.assignment [key] tree) = some (place (inner ++ [(key, .leaf tree)])))
    {entries : List (String × Tree)} {inner : Entries}
    (h : (inner.map (·.1) ++ entries.map (·.1)).Nodup) :
    (entries.map (Line.ofAssignment · |>.statement)).foldlM Assembly.add (place inner) =
      some (place (inner ++ leaves entries)) := by
  induction entries generalizing inner with
  | nil => simp [leaves]
  | cons entry entries ih =>
    obtain ⟨key, tree⟩ := entry
    have hsplit : inner.map (·.1) ++ ((key, tree) :: entries).map (·.1) =
        (inner ++ [(key, Node.leaf tree)]).map (·.1) ++ entries.map (·.1) := by simp
    have hkey : key ∉ inner.map (·.1) := fun hm =>
      (List.nodup_append.1 h).2.2 key hm key (by simp) rfl
    rw [hsplit] at h
    rw [List.map_cons, List.foldlM_cons, Line.ofAssignment, hplace inner key tree hkey]
    change (entries.map _).foldlM Assembly.add (place (inner ++ [(key, .leaf tree)])) = _
    rw [ih h]
    simp [leaves]

lemma foldlM_section {before : Entries} {path : List String} {name : String}
    {inner : List (String × Tree)} (hn : name ∉ before.map (·.1)) (hi : (inner.map (·.1)).Nodup) :
    ((Line.ofSection (name, .table inner)).map (·.statement)).foldlM Assembly.add
        { entries := before, path } =
      some { entries := before ++ [(name, nodeOf (.table inner))], path := [name] } := by
  have hinner := foldlM_assignments
    (fun inner => { entries := before ++ [(name, .table .opened inner)], path := [name] })
    (fun inner key tree hk => add_assignment_below hn hk tree)
    (by simpa using hi : (([] : Entries).map (·.1) ++ inner.map (·.1)).Nodup)
  rw [Line.ofSection, List.map_cons, List.foldlM_cons, Line.ofHeader, add_header hn]
  rw [List.map_map]
  exact hinner

lemma foldlM_sections {before : Entries} (path : List String) {tables : List (String × Tree)}
    (ht : ∀ entry ∈ tables, ∃ inner, entry.2 = .table inner ∧ (inner.map (·.1)).Nodup)
    (h : (before.map (·.1) ++ tables.map (·.1)).Nodup) :
    ∃ last, ((tables.flatMap Line.ofSection).map (·.statement)).foldlM Assembly.add
        { entries := before, path } =
      some { entries := before ++ tables.map fun entry => (entry.1, nodeOf entry.2), path := last } := by
  induction tables generalizing before path with
  | nil => exact ⟨path, by simp⟩
  | cons entry tables ih =>
    obtain ⟨name, tree⟩ := entry
    obtain ⟨inner, rfl, hi⟩ : ∃ inner, tree = .table inner ∧ (inner.map (·.1)).Nodup :=
      ht _ (.head _)
    have hsplit : before.map (·.1) ++ ((name, Tree.table inner) :: tables).map (·.1) =
        (before ++ [(name, nodeOf (.table inner))]).map (·.1) ++ tables.map (·.1) := by simp
    have hname : name ∉ before.map (·.1) := fun hm =>
      (List.nodup_append.1 h).2.2 name hm name (by simp) rfl
    rw [hsplit] at h
    obtain ⟨last, hlast⟩ := ih [name] (fun entry he => ht entry (.tail _ he)) h
    refine ⟨last, ?_⟩
    rw [List.flatMap_cons, List.map_append, List.foldlM_append, foldlM_section hname hi]
    change List.foldlM Assembly.add _ _ = _
    rw [hlast]
    simp

lemma treesOfEntries_leaves (entries : List (String × Tree)) :
    treesOfEntries (leaves entries) = entries := by
  induction entries with
  | nil => rfl
  | cons entry entries ih =>
    change (entry.1, entry.2) :: treesOfEntries (leaves entries) = _
    rw [ih]

lemma toTree_nodeOf (tree : Tree) : (nodeOf tree).toTree = tree := by
  cases tree with
  | table inner => rw [nodeOf, Node.toTree, treesOfEntries_leaves]
  | _ => rfl

lemma treesOfEntries_map_nodeOf (entries : List (String × Tree)) :
    treesOfEntries (entries.map fun entry => (entry.1, nodeOf entry.2)) = entries := by
  induction entries with
  | nil => rfl
  | cons entry entries ih => rw [List.map_cons, treesOfEntries, toTree_nodeOf, ih]

lemma map_nodeOf_of_forall {entries : List (String × Tree)}
    (h : ∀ entry ∈ entries, isTable entry.2 = false) :
    entries.map (fun entry => (entry.1, nodeOf entry.2)) = leaves entries := by
  refine List.map_congr_left fun entry he => ?_
  obtain ⟨name, tree⟩ := entry
  cases tree with
  | table inner => simpa [isTable] using h _ he
  | _ => rfl

/-- The values of a document and then its tables, the order in which it is written. -/
def written (entries : List (String × Tree)) : List (String × Tree) :=
  entries.filter (!isTable ·.2) ++ entries.filter (isTable ·.2)

lemma nodup_written {entries : List (String × Tree)} (h : (entries.map (·.1)).Nodup) :
    ((written entries).map (·.1)).Nodup := by
  have hperm : (written entries).Perm entries :=
    List.perm_append_comm.trans (List.filter_append_perm (isTable ·.2) entries)
  exact (hperm.map (·.1)).nodup_iff.2 h

lemma assemble?_ofDocument {entries : List (String × Tree)} (h : IsDocument entries) :
    assemble? ((Line.ofDocument entries).map (·.statement)) = some (.table (written entries)) := by
  have hnodup := nodup_written h.nodup
  have hvalues : ∀ entry ∈ entries.filter (!isTable ·.2), isTable entry.2 = false := by
    intro entry he
    simpa using (List.mem_filter.1 he).2
  have htables : ∀ entry ∈ entries.filter (isTable ·.2),
      ∃ inner, entry.2 = .table inner ∧ (inner.map (·.1)).Nodup := by
    rintro ⟨name, tree⟩ he
    obtain ⟨hm, ht⟩ := List.mem_filter.1 he
    cases tree with
    | table inner => exact ⟨inner, rfl, (h.isSection _ hm inner rfl).nodup⟩
    | _ => simp [isTable] at ht
  rw [written, List.map_append] at hnodup
  have hfirst := foldlM_assignments (fun entries => { entries, path := [] })
    (fun _ _ tree hk => add_assignment hk tree)
    (by simpa using (List.nodup_append.1 hnodup).1 :
      (([] : Entries).map (·.1) ++ (entries.filter (!isTable ·.2)).map (·.1)).Nodup)
  rw [List.nil_append] at hfirst
  have hkeys : ((leaves (entries.filter (!isTable ·.2))).map (·.1) ++
      (entries.filter (isTable ·.2)).map (·.1)).Nodup := by
    rw [leaves, List.map_map]
    exact hnodup
  obtain ⟨last, hlast⟩ := foldlM_sections [] htables hkeys
  have hnodes : (written entries).map (fun entry => (entry.1, nodeOf entry.2)) =
      leaves (entries.filter (!isTable ·.2)) ++
        (entries.filter (isTable ·.2)).map fun entry => (entry.1, nodeOf entry.2) := by
    rw [written, List.map_append, map_nodeOf_of_forall hvalues]
  have hall : ((Line.ofDocument entries).map (·.statement)).foldlM Assembly.add
      { entries := [], path := [] } =
        some {
          entries := (written entries).map fun entry => (entry.1, nodeOf entry.2)
          path := last } := by
    rw [Line.ofDocument, List.map_append, List.map_map, List.foldlM_append, hnodes, ← hlast]
    exact congrArg (Option.bind · _) hfirst
  rw [assemble?, hall]
  change some (Tree.table (treesOfEntries _)) = _
  rw [treesOfEntries_map_nodeOf]

end Assembly

/-! ### Documents -/

lemma unifyLineEnds_eq_self {text : List Char} (h : '\r' ∉ text) : unifyLineEnds text = text := by
  induction text with
  | nil => rfl
  | cons c text ih =>
    rw [List.mem_cons, not_or] at h
    have hc : c ≠ '\r' := Ne.symm h.1
    unfold unifyLineEnds
    split
    next heq => simp_all
    next heq => simp_all
    next heq => simp_all

lemma dropMark_eq_self {text : List Char} (h : text.head? ≠ some '\ufeff') : dropMark text = text := by
  unfold dropMark
  split
  next => simp at h
  next => rfl

/-- A document of values and tables comes back with its tables behind its values. -/
theorem read?_write {entries : List (String × Tree)} (h : IsDocument entries) :
    read? (write entries) = some (.table (written entries)) := by
  have hlines : ∀ line ∈ Line.ofDocument entries, line.ReadsBack :=
    fun line hl => readsBack_of_mem_ofDocument h hl
  have hreturn : '\r' ∉ (write entries).toList := by
    rw [toList_write, List.mem_flatMap]
    rintro ⟨line, hl, hr⟩
    exact (hlines line hl).no_return hr
  have hmark : (write entries).toList.head? ≠ some '\ufeff' := by
    rw [toList_write]
    cases hd : Line.ofDocument entries with
    | nil => simp
    | cons line lines =>
      have hline := hlines line (by simp [hd])
      rw [List.flatMap_cons, List.head?_append_of_ne_nil _ hline.ne_nil]
      exact fun hc => hline.no_mark _ hc rfl
  have hstatements : (statements (2 * ((write entries).length + 1))).run (write entries).toList =
      some ((Line.ofDocument entries).map (·.statement), []) := by
    rw [toList_write]
    refine run_statements hlines ?_
    rw [← toList_write, String.length_toList]
    omega
  rw [read?, dropMark_eq_self hmark, unifyLineEnds_eq_self hreturn, readAll?_eq_some hstatements]
  exact assemble?_ofDocument h

end CommitStyle.Document.Toml
