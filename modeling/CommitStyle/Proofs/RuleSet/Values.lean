import CommitStyle.Proofs.Outcome
import CommitStyle.Proofs.RuleSet.Validity

/-!
# Values that rules use in full

A valid rule set gives every built-in rule a value that the rule uses as it stands. The values that are
refused are those of which a rule would lose something: it would go on as if it had no value, or pass
over some of the names.
-/

namespace CommitStyle

namespace Check

variable {check : Check} {value : RuleValue}

def Skips (check : Check) (value : Option RuleValue) : Prop :=
  ∀ message condition, check message condition value = .skipped

def Decides (check : Check) (value : Option RuleValue) (verdict : Verdict) : Prop :=
  ∀ message condition, (check message condition value).valid = verdict message condition

/-- The check holds lengths to a limit, of which zero is none. -/
def HoldsTo (check : Check) (value : Option RuleValue) (limit : Nat) : Prop :=
  if limit = 0 then check.Skips value
  else ∃ field, check.Decides value (.atMost field limit) ∨
    check.Decides value (.atLeast field limit) ∨ check.Decides value (.linesAtMost field limit)

def LooksFor (check : Check) (value : Option RuleValue) (text : String) : Prop :=
  (∃ field, check.Decides value (.endsIn field text)) ∨ check.Decides value (.signedBy text)

def GoesBy (check : Check) (value : Option RuleValue) (items : List String) : Prop :=
  if items = [] then check.Skips value
  else check.Decides value (.typeIn items) ∨ check.Decides value (.scopesIn items)

def TriesShapes (check : Check) (value : Option RuleValue) (casings : List Casing) : Prop :=
  ∃ field, check.Decides value (.shapedAs field casings)

/-- The check does with the value all that the value says. A list of names says one shape for each. -/
def UsesInFull (check : Check) (value : RuleValue) : ValueKind → Prop
  | .none => True
  | .limit => ∃ limit : Nat, value = .number limit ∧ check.HoldsTo (some value) limit
  | .text => ∃ text, value = .text text ∧ check.LooksFor (some value) text
  | .list => ∃ items, value.toList? = some items ∧ check.GoesBy (some value) items
  | .casings => ∃ names casings, value.toList? = some names ∧
      names.map Casing.ofName? = casings.map some ∧
      if names = [] then check.Skips (some value) else check.TriesShapes (some value) casings

/-- The check decides as if there were no value, or tries fewer shapes than there are names. -/
def FallsBack (check : Check) (value : RuleValue) : Prop :=
  (∀ message condition,
    (check message condition (some value)).valid = (check message condition none).valid) ∨
  ∃ names casings, value.toList? = some names ∧ casings.length < names.length ∧
    check.TriesShapes (some value) casings

def Reads (check : Check) : ValueKind → Prop
  | .none => True
  | .limit => ∃ field, check.Judges limit? (.atMost field) ∨
      check.Judges limit? (.atLeast field) ∨ check.Judges limit? (.linesAtMost field)
  | .text => ∃ default, (∃ field, check.Judges (textOr default) (.endsIn field)) ∨
      check.Judges (textOr default) .signedBy
  | .list => check.Judges items? .typeIn ∨ check.Judges items? .scopesIn
  | .casings => ∃ field, check.Judges items? fun names =>
      .shapedAs field (names.filterMap Casing.ofName?)

@[simp] lemma reads_none (check : Check) : check.Reads .none := trivial

@[simp] lemma reads_hasMaxLength (field : Field) : (hasMaxLength field).Reads .limit :=
  ⟨field, .inl (judges_hasMaxLength field)⟩

@[simp] lemma reads_hasMinLength (field : Field) : (hasMinLength field).Reads .limit :=
  ⟨field, .inr (.inl (judges_hasMinLength field))⟩

@[simp] lemma reads_hasMaxLineLength (field : Field) : (hasMaxLineLength field).Reads .limit :=
  ⟨field, .inr (.inr (judges_hasMaxLineLength field))⟩

@[simp] lemma reads_endsInStop (field : Field) : (endsInStop field).Reads .text :=
  ⟨".", .inl ⟨field, judges_endsInStop field⟩⟩

@[simp] lemma reads_isSigned : isSigned.Reads .text :=
  ⟨"Signed-off-by:", .inr judges_isSigned⟩

@[simp] lemma reads_hasListedType : hasListedType.Reads .list := .inl judges_hasListedType

@[simp] lemma reads_hasListedScopes : hasListedScopes.Reads .list := .inr judges_hasListedScopes

@[simp] lemma reads_hasCasing (field : Field) : (hasCasing field).Reads .casings :=
  ⟨field, judges_hasCasing field⟩

end Check

/-- The value is not what a rule of the kind reads, or holds a name that the rule cannot read. -/
def ValueKind.Misreads (value : RuleValue) : ValueKind → Prop
  | none => False
  | limit => ∀ n, value.toNumber? = some n → n < 0
  | text => value.toText? = Option.none
  | list => value.toList? = Option.none
  | casings => ∀ names, value.toList? = some names → ∃ name ∈ names, Casing.ofName? name = Option.none

namespace Check

variable {check : Check} {kind : ValueKind} {value : RuleValue}

lemma holdsTo_of_reads (h : check.Reads .limit) (limit : Nat) :
    check.HoldsTo (some (.number limit)) limit := by
  obtain ⟨field, h⟩ := h
  rw [HoldsTo]
  split_ifs with hl
  · subst hl
    rcases h with h | h | h
    all_goals exact h.skipped rfl
  · have hread := limit?_natCast (Nat.pos_of_ne_zero hl)
    exact ⟨field, h.imp (·.valid hread) (Or.imp (·.valid hread) (·.valid hread))⟩

lemma looksFor_of_reads (h : check.Reads .text) (text : String) :
    check.LooksFor (some (.text text)) text := by
  obtain ⟨default, h⟩ := h
  have hread : textOr default (some (.text text)) = some text := rfl
  rcases h with ⟨field, h⟩ | h
  · exact .inl ⟨field, h.valid hread⟩
  · exact .inr (h.valid hread)

lemma goesBy_of_reads (h : check.Reads .list) {items : List String}
    (hi : value.toList? = some items) : check.GoesBy (some value) items := by
  rw [GoesBy]
  split_ifs with hn
  · subst hn
    have hread : items? (some value) = none := items?_eq_none hi
    exact h.elim (·.skipped hread) (·.skipped hread)
  · have hread : items? (some value) = some items := items?_eq_some hi hn
    exact h.imp (·.valid hread) (·.valid hread)

lemma triesShapes_of_reads (h : check.Reads .casings) {names : List String}
    (hi : value.toList? = some names) :
    if names = [] then check.Skips (some value)
    else check.TriesShapes (some value) (names.filterMap Casing.ofName?) := by
  obtain ⟨field, h⟩ := h
  split_ifs with hn
  · subst hn
    have hread : items? (some value) = none := items?_eq_none hi
    exact h.skipped hread
  · exact ⟨field, h.valid (items?_eq_some hi hn)⟩

lemma usesInFull_iff (h : check.Reads kind) : check.UsesInFull value kind ↔ ¬ kind.Misreads value := by
  cases kind with
  | none => simp [UsesInFull, ValueKind.Misreads]
  | limit =>
    constructor
    · rintro ⟨limit, rfl, -⟩ hm
      have hn := hm limit rfl
      omega
    · intro hm
      cases value with
      | number n =>
        have hn : ¬ n < 0 := fun hn => hm (by rintro _ ⟨⟩; exact hn)
        obtain ⟨limit, rfl⟩ := Int.eq_ofNat_of_zero_le (Int.not_lt.1 hn)
        exact ⟨limit, rfl, holdsTo_of_reads h limit⟩
      | flag | text | list => exact (hm nofun).elim
  | text =>
    constructor
    · rintro ⟨text, rfl, -⟩ hm
      cases hm
    · intro hm
      cases value with
      | text text => exact ⟨text, rfl, looksFor_of_reads h text⟩
      | flag | number | list => exact (hm rfl).elim
  | list =>
    constructor
    · rintro ⟨items, hi, -⟩ hm
      cases hi.symm.trans hm
    · intro hm
      obtain ⟨items, hi⟩ := Option.ne_none_iff_exists'.1 hm
      exact ⟨items, hi, goesBy_of_reads h hi⟩
  | casings =>
    constructor
    · rintro ⟨names, casings, hi, hall, -⟩ hm
      obtain ⟨name, hn, hname⟩ := hm names hi
      have hmem : Casing.ofName? name ∈ casings.map some := hall ▸ List.mem_map_of_mem hn
      rw [hname] at hmem
      simp at hmem
    · intro hm
      simp only [ValueKind.Misreads, not_forall, not_exists, not_and] at hm
      obtain ⟨names, hi, hall⟩ := hm
      refine ⟨names, names.filterMap Casing.ofName?, hi, ?_, triesShapes_of_reads h hi⟩
      rw [List.map_filterMap_some_eq_filter_map_isSome, eq_comm, List.filter_eq_self,
        List.forall_mem_map]
      exact fun name hn => Option.isSome_iff_ne_none.2 (hall name hn)

lemma fallsBack_of_misreads (h : check.Reads kind) (hm : kind.Misreads value) :
    check.FallsBack value := by
  have hskip {α : Type} {read? : Option RuleValue → Option α} {verdict : α → Verdict}
      (hj : check.Judges read? verdict) (hv : read? (some value) = none) (hn : read? none = none) :
      check.FallsBack value := by
    left
    intro message condition
    rw [hj.skipped hv, hj.skipped hn]
  cases kind with
  | none => cases hm
  | limit =>
    have hread : limit? (some value) = none := by
      cases value with
      | number n =>
        have hn : n < 0 := hm n rfl
        rw [limit?_number, if_neg (by omega)]
      | flag | text | list => rfl
    obtain ⟨field, h⟩ := h
    rcases h with h | h | h
    all_goals exact hskip h hread rfl
  | text =>
    have hread : ∀ default, textOr default (some value) = textOr default none := by
      intro default
      rw [textOr, Option.bind_some, hm]
      rfl
    obtain ⟨default, h⟩ := h
    left
    intro message condition
    rcases h with ⟨field, h⟩ | h
    · rw [h.valid (hread default), h.valid rfl]
    · rw [h.valid (hread default), h.valid rfl]
  | list =>
    have hread : items? (some value) = none := by
      rw [items?, Option.bind_some, hm]
    exact h.elim (hskip · hread rfl) (hskip · hread rfl)
  | casings =>
    cases hl : value.toList? with
    | none =>
      have hread : items? (some value) = none := by
        rw [items?, Option.bind_some, hl]
      obtain ⟨field, h⟩ := h
      exact hskip h hread rfl
    | some names =>
      obtain ⟨name, hn, hname⟩ := hm names hl
      right
      refine ⟨names, names.filterMap Casing.ofName?, hl, ?_, ?_⟩
      · rw [List.length_filterMap_lt_length_iff_exists]
        exact ⟨name, hn, hname⟩
      · have ht := triesShapes_of_reads h hl
        rwa [if_neg (List.ne_nil_of_mem hn)] at ht

end Check

namespace Rule

variable {rule : Rule} {value : RuleValue}

lemma reads_of_mem_builtins (h : rule ∈ builtins) : rule.check.Reads rule.kind := by
  revert rule
  rw [← List.forall_iff_forall_mem]
  simp [builtins]

lemma validateValue_some_eq_ok_iff : rule.validateValue (some value) = .ok () ↔
    rule.kind.strangeName? value = none ∧ rule.kind.admits value = true := by
  rw [validateValue]
  cases rule.kind.strangeName? value with
  | some name => simp [ConfigError.raise]
  | none => cases rule.kind.admits value <;> simp [ConfigError.raise]

lemma validateValue_some_eq_ok_iff_not_misreads :
    rule.validateValue (some value) = .ok () ↔ ¬ rule.kind.Misreads value := by
  rw [validateValue_some_eq_ok_iff]
  cases rule.kind with
  | none => simp [ValueKind.strangeName?, ValueKind.admits, ValueKind.Misreads]
  | limit | text | list =>
    cases value <;>
      simp [ValueKind.strangeName?, ValueKind.admits, ValueKind.Misreads, RuleValue.toNumber?,
        RuleValue.toText?, RuleValue.toList?]
  | casings =>
    cases value <;>
      simp [ValueKind.strangeName?, ValueKind.admits, ValueKind.Misreads, RuleValue.toList?]

lemma validateValue_of_validateWith {set : RuleSet} {isKnown : String → Bool} {name : String}
    {setting : Setting} (hv : set.validateWith isKnown = .ok ())
    (hs : set.rule? name = some setting) (hr : builtin? name = some rule) :
    rule.validateValue setting.value = .ok () :=
  (RuleSet.validateRule_eq_ok_iff.1 ((RuleSet.validateWith_eq_ok_iff.1 hv).1 name setting hs)).2 rule hr

/-- A value is refused if and only if the rule does not use it in full, that is, if it is not what the
rule reads or holds a name that the rule cannot read; the rule would then fall back on something else
than what the value says. So every value that a valid rule set gives a built-in rule is used in full. -/
theorem refused_iff_not_usesInFull (name : String) (rule : Rule) (h : builtin? name = some rule) :
    (∀ value,
      ((∃ e, rule.validateValue (some value) = .error e) ↔
        ¬ rule.check.UsesInFull value rule.kind) ∧
      (¬ rule.check.UsesInFull value rule.kind ↔ rule.kind.Misreads value) ∧
      (¬ rule.check.UsesInFull value rule.kind → rule.check.FallsBack value)) ∧
    ∀ set isKnown setting value, RuleSet.validateWith set isKnown = .ok () →
      set.rule? name = some setting → setting.value = some value →
        rule.check.UsesInFull value rule.kind := by
  have hreads := reads_of_mem_builtins (List.mem_of_find?_eq_some h)
  have hfull : ∀ value, ¬ rule.check.UsesInFull value rule.kind ↔ rule.kind.Misreads value :=
    fun value => (not_congr (Check.usesInFull_iff hreads)).trans not_not
  refine ⟨fun value => ⟨?_, hfull value, fun hu => ?_⟩, fun set isKnown setting value hv hs hval => ?_⟩
  · rw [hfull value, exists_eq_error_iff, validateValue_some_eq_ok_iff_not_misreads, not_not]
  · exact Check.fallsBack_of_misreads hreads ((hfull value).1 hu)
  · have hok := validateValue_of_validateWith hv hs h
    rw [hval, validateValue_some_eq_ok_iff_not_misreads, ← Check.usesInFull_iff hreads] at hok
    exact hok

def shapedSet : RuleSet where
  rules := .ofList [("subject-case", .withValue .error .never (.list ["Start-Case", "uppercase"]))]

theorem refused_iff_not_usesInFull_shaped :
    ∃ rule setting, builtin? "subject-case" = some rule ∧
      (∃ e, rule.validateValue (some (.list ["lower-case", "shouting"])) = .error e) ∧
      ¬ rule.check.UsesInFull (.list ["lower-case", "shouting"]) rule.kind ∧
      rule.check.FallsBack (.list ["lower-case", "shouting"]) ∧
      shapedSet.validateWith isBuiltin = .ok () ∧
      shapedSet.rule? "subject-case" = some setting ∧
      setting.value = some (.list ["Start-Case", "uppercase"]) ∧
      rule.check.UsesInFull (.list ["Start-Case", "uppercase"]) rule.kind := by
  have hv : shapedSet.validateWith isBuiltin = .ok () := by rfl
  obtain ⟨hrefused, hused⟩ := refused_iff_not_usesInFull "subject-case" _ rfl
  obtain ⟨hiff, -, hback⟩ := hrefused (.list ["lower-case", "shouting"])
  have he : ∃ e, validateValue ⟨"subject-case", .casings, Check.hasCasing .subject⟩
      (some (.list ["lower-case", "shouting"])) = .error e := ⟨_, rfl⟩
  have hn := hiff.1 he
  exact ⟨_, _, rfl, he, hn, hback hn, hv, rfl, rfl, hused shapedSet isBuiltin _ _ hv rfl rfl⟩

end Rule

end CommitStyle
