import SourcePatch.Proofs.Patch.Steps
import SourcePatch.RuleFile.Load

/-!
# What is wrong with a configuration

A configuration is checked rule by rule, and within a rule field by field. Here the conditions are
written down apart from the check.

* `PatchConfig.Violation` says which condition a rule violates in a field, and how it is reported;
  `PatchConfig.Violation.of_rule`: a rule violates one at most in each.
* `PatchConfig.Enumerates`: issues go through rules and fields in order, with one issue for each
  violated condition and none else. There is only one such list (`Enumerates.unique`).
* `PatchConfig.enumerates_ruleIssues`: the check lists the issues in this way.
* `PatchConfig.validate_exact`: a configuration is valid exactly if it has a rule and no condition
  is violated; otherwise its issues are those, and a rule file that loads has rules that compile.
-/

namespace SourcePatch

/-! ## Conditions -/

/-- Does a text have a character that is no blank? -/
def Filled (text : String) : Prop := ∃ c ∈ text.toList, Blank.isBlank c = false

theorem isBlankText_iff {text : String} : Blank.isBlankText text = true ↔ ¬ Filled text := by
  simp [Blank.isBlankText, Filled]

theorem isBlankText_eq_false_iff {text : String} :
    Blank.isBlankText text = false ↔ Filled text := by
  rw [← Bool.not_eq_true, isBlankText_iff, Classical.not_not]

namespace Pattern

/-- Does a pattern compile, and has it two groups at least? -/
def Usable (pattern : String) : Prop :=
  ∃ program, compile pattern = .ok program ∧ 2 ≤ program.groups

/-- Why a pattern is not usable. -/
inductive Flaw (pattern : String) : RuleError → Prop where
  | malformed {cause : PatternError} (fails : compile pattern = .error cause) :
      Flaw pattern (.invalidPattern cause)
  | fewGroups {program : Program} (compiles : compile pattern = .ok program)
      (few : program.groups < 2) : Flaw pattern (.missingCaptures program.groups)

theorem Flaw.not_usable {pattern : String} {cause : RuleError} (h : Flaw pattern cause) :
    ¬ Usable pattern := by
  rintro ⟨program, hcompile, hgroups⟩
  cases h with
  | malformed fails =>
    rw [hcompile] at fails
    cases fails
  | fewGroups compiles few =>
    rw [hcompile] at compiles
    obtain rfl := Except.ok.inj compiles
    omega

theorem Flaw.unique {pattern : String} {cause cause' : RuleError} (h : Flaw pattern cause)
    (h' : Flaw pattern cause') : cause = cause' := by
  cases h with
  | malformed fails =>
    cases h' with
    | malformed fails' => rw [Except.error.inj (fails.symm.trans fails')]
    | fewGroups compiles' few' =>
      rw [fails] at compiles'
      cases compiles'
  | fewGroups compiles few =>
    cases h' with
    | malformed fails' =>
      rw [compiles] at fails'
      cases fails'
    | fewGroups compiles' few' => rw [Except.ok.inj (compiles.symm.trans compiles')]

end Pattern

namespace RuleDefinition

variable {d : RuleDefinition} {name : Option String}

/-- A rule is made of a usable pattern, and of no other. -/
theorem toRule_cases (d : RuleDefinition) :
    (Pattern.Usable d.pattern ∧ ∃ rule, d.toRule = .ok rule) ∨
      ∃ cause, Pattern.Flaw d.pattern cause ∧ d.toRule = .error cause := by
  unfold toRule InsertionRule.ofPattern
  cases hcompile : Pattern.compile d.pattern with
  | error cause => exact Or.inr ⟨_, .malformed hcompile, rfl⟩
  | ok program =>
    by_cases hgroups : program.groups < 2
    · refine Or.inr ⟨_, .fewGroups hcompile hgroups, ?_⟩
      simp only [if_pos hgroups]
      rfl
    · refine Or.inl ⟨⟨program, hcompile, Nat.le_of_not_lt hgroups⟩, ?_⟩
      simp only [if_neg hgroups]
      exact ⟨_, rfl⟩

/-- How a rule is called in reports: by its id, and not at all if this is blank. -/
inductive Called (d : RuleDefinition) : Option String → Prop where
  | named (filled : Filled d.id) : Called d (some d.id)
  | unnamed (blank : ¬ Filled d.id) : Called d none

theorem called_name? (d : RuleDefinition) : d.Called d.name? := by
  unfold name?
  split
  · rename_i h
    exact .unnamed (isBlankText_iff.1 h)
  · rename_i h
    rw [isBlankText_iff, Classical.not_not] at h
    exact .named h

theorem Called.eq_name? (h : d.Called name) : name = d.name? := by
  unfold name?
  cases h with
  | named filled => rw [isBlankText_eq_false_iff.2 filled]; rfl
  | unnamed blank => rw [isBlankText_iff.2 blank]; rfl

/-- The text of a field. -/
def text (d : RuleDefinition) : RuleField → String
  | .id => d.id
  | .file => d.file
  | .insert => d.insert
  | .pattern => d.pattern

end RuleDefinition

/-- The fields in the order in which they are checked. -/
def RuleField.all : List RuleField := [.id, .file, .insert, .pattern]

namespace PatchConfig

variable {rules : List RuleDefinition} {d : RuleDefinition} {i : Nat}

/-- A condition that the rule at a position violates in a field, and how this is reported: the field
is blank, the id is that of an earlier rule, or the pattern is not usable. -/
inductive Violation (rules : List RuleDefinition) : Nat × RuleField → ConfigIssue → Prop where
  | blank {i : Nat} {d : RuleDefinition} {name : Option String} {field : RuleField}
      (rule : rules[i]? = some d) (called : d.Called name) (blank : ¬ Filled (d.text field)) :
      Violation rules (i, field) (.missingField name field)
  | repeated {i j : Nat} {d e : RuleDefinition} (rule : rules[i]? = some d) (filled : Filled d.id)
      (earlier : rules[j]? = some e) (before : j < i) (same : e.id = d.id) :
      Violation rules (i, .id) (.duplicateId d.id)
  | flawed {i : Nat} {d : RuleDefinition} {name : Option String} {cause : RuleError}
      (rule : rules[i]? = some d) (called : d.Called name) (filled : Filled d.pattern)
      (flaw : Pattern.Flaw d.pattern cause) :
      Violation rules (i, .pattern) (.invalidPattern name cause)

/-- Issues that go through some places in order: one for each place where a condition is violated,
and none for any other. -/
inductive Enumerates (rules : List RuleDefinition) :
    List (Nat × RuleField) → List ConfigIssue → Prop where
  | done : Enumerates rules [] []
  | fine {place : Nat × RuleField} {places : List (Nat × RuleField)} {issues : List ConfigIssue}
      (kept : ∀ issue, ¬ Violation rules place issue) (rest : Enumerates rules places issues) :
      Enumerates rules (place :: places) issues
  | violated {place : Nat × RuleField} {places : List (Nat × RuleField)} {issue : ConfigIssue}
      {issues : List ConfigIssue} (violation : Violation rules place issue)
      (rest : Enumerates rules places issues) :
      Enumerates rules (place :: places) (issue :: issues)

/-- The fields of a rule. -/
def placesOf (i : Nat) : List (Nat × RuleField) := RuleField.all.map (i, ·)

/-- The fields of all rules, rule by rule. -/
def places (rules : List RuleDefinition) : List (Nat × RuleField) :=
  (List.range rules.length).flatMap placesOf

/-! ## One list of issues -/

/-- The ids before a position are those of the rules at smaller ones. -/
theorem mem_earlier_iff {id : String} :
    id ∈ (rules.take i).map (·.id) ↔ ∃ j < i, ∃ e, rules[j]? = some e ∧ e.id = id := by
  rw [List.mem_map]
  constructor
  · rintro ⟨e, he, hid⟩
    obtain ⟨j, hj⟩ := List.mem_iff_getElem?.1 he
    rw [List.getElem?_take] at hj
    split at hj
    · rename_i hlt
      exact ⟨j, hlt, e, hj, hid⟩
    · cases hj
  · rintro ⟨j, hlt, e, hj, hid⟩
    refine ⟨e, List.mem_iff_getElem?.2 ⟨j, ?_⟩, hid⟩
    rw [List.getElem?_take, if_pos hlt]
    exact hj

namespace Violation

variable {field : RuleField} {place : Nat × RuleField} {issue issue' : ConfigIssue}

theorem exists_rule (h : Violation rules (i, field) issue) : ∃ d, rules[i]? = some d := by
  cases h with
  | blank rule _ _ => exact ⟨_, rule⟩
  | repeated rule _ _ _ _ => exact ⟨_, rule⟩
  | flawed rule _ _ _ => exact ⟨_, rule⟩

/-- All that a given rule can violate in a field. -/
theorem of_rule (h : Violation rules (i, field) issue) (rule : rules[i]? = some d) :
    (¬ Filled (d.text field) ∧ issue = .missingField d.name? field) ∨
      (field = .id ∧ Filled d.id ∧ d.id ∈ (rules.take i).map (·.id) ∧ issue = .duplicateId d.id) ∨
      (field = .pattern ∧ Filled d.pattern ∧
        ∃ cause, Pattern.Flaw d.pattern cause ∧ issue = .invalidPattern d.name? cause) := by
  cases h with
  | blank rule' called blank =>
    obtain rfl := Option.some.inj (rule.symm.trans rule')
    exact Or.inl ⟨blank, by rw [called.eq_name?]⟩
  | repeated rule' filled earlier before same =>
    obtain rfl := Option.some.inj (rule.symm.trans rule')
    have hmem := mem_earlier_iff.2 ⟨_, before, _, earlier, same⟩
    exact Or.inr (Or.inl ⟨rfl, filled, hmem, rfl⟩)
  | flawed rule' called filled flaw =>
    obtain rfl := Option.some.inj (rule.symm.trans rule')
    exact Or.inr (Or.inr ⟨rfl, filled, _, flaw, by rw [called.eq_name?]⟩)

/-- A condition is reported in one way. -/
theorem unique (h : Violation rules place issue) (h' : Violation rules place issue') :
    issue = issue' := by
  obtain ⟨i, field⟩ := place
  obtain ⟨d, rule⟩ := h.exists_rule
  rcases h.of_rule rule with
    ⟨blank, rfl⟩ | ⟨rfl, filled, -, rfl⟩ | ⟨rfl, filled, cause, flaw, rfl⟩
  · rcases h'.of_rule rule with ⟨-, rfl⟩ | ⟨rfl, filled, -⟩ | ⟨rfl, filled, -⟩
    · rfl
    · exact absurd filled blank
    · exact absurd filled blank
  · rcases h'.of_rule rule with ⟨blank, -⟩ | ⟨-, -, -, rfl⟩ | ⟨hfield, -⟩
    · exact absurd filled blank
    · rfl
    · cases hfield
  · rcases h'.of_rule rule with ⟨blank, -⟩ | ⟨hfield, -⟩ | ⟨-, -, cause', flaw', rfl⟩
    · exact absurd filled blank
    · cases hfield
    · rw [flaw.unique flaw']

end Violation

namespace Enumerates

variable {places places' : List (Nat × RuleField)} {issues issues' : List ConfigIssue}

/-- The violated conditions leave no choice. -/
theorem unique (h : Enumerates rules places issues) (h' : Enumerates rules places issues') :
    issues = issues' := by
  induction h generalizing issues' with
  | done =>
    cases h'
    rfl
  | fine kept rest ih =>
    cases h' with
    | fine _ rest' => exact ih rest'
    | violated violation _ => exact absurd violation (kept _)
  | violated violation rest ih =>
    cases h' with
    | fine kept _ => exact absurd violation (kept _)
    | violated violation' rest' => rw [violation.unique violation', ih rest']

theorem append (h : Enumerates rules places issues) (h' : Enumerates rules places' issues') :
    Enumerates rules (places ++ places') (issues ++ issues') := by
  induction h with
  | done => exact h'
  | fine kept rest ih => exact .fine kept ih
  | violated violation rest ih => exact .violated violation ih

/-- There are no issues exactly if no condition is violated. -/
theorem eq_nil_iff (h : Enumerates rules places issues) :
    issues = [] ↔ ∀ place ∈ places, ∀ issue, ¬ Violation rules place issue := by
  induction h with
  | done => simp
  | fine kept rest ih =>
    rw [List.forall_mem_cons, ih]
    exact ⟨fun h => ⟨kept, h⟩, fun h => h.2⟩
  | violated violation rest ih =>
    constructor
    · intro h
      cases h
    · intro h
      exact absurd violation (h _ List.mem_cons_self _)

end Enumerates

/-! ## The check -/

section Rule

variable (rule : rules[i]? = some d)
include rule

/-- A blank field is an issue, and a filled one is none. -/
theorem enumerates_blankIssues {field : RuleField} (hid : field ≠ .id)
    (hpattern : field ≠ .pattern) :
    Enumerates rules [(i, field)] (d.blankIssues field (d.text field)) := by
  unfold RuleDefinition.blankIssues
  by_cases hfilled : Filled (d.text field)
  · rw [isBlankText_eq_false_iff.2 hfilled]
    refine .fine ?_ .done
    intro issue hviolation
    rcases hviolation.of_rule rule with ⟨blank, -⟩ | ⟨hfield, -⟩ | ⟨hfield, -⟩
    · exact blank hfilled
    · exact hid hfield
    · exact hpattern hfield
  · rw [isBlankText_iff.2 hfilled]
    exact .violated (.blank rule d.called_name? hfilled) .done

/-- A blank id is an issue, and so is a filled one that an earlier rule has. -/
theorem enumerates_idIssues :
    Enumerates rules [(i, .id)] (d.idIssues ((rules.take i).map (·.id))) := by
  unfold RuleDefinition.idIssues
  by_cases hfilled : Filled d.id
  · rw [isBlankText_eq_false_iff.2 hfilled, List.contains_eq_mem]
    by_cases hearlier : d.id ∈ (rules.take i).map (·.id)
    · obtain ⟨j, hlt, e, he, hsame⟩ := mem_earlier_iff.1 hearlier
      rw [decide_eq_true hearlier]
      exact .violated (.repeated rule hfilled he hlt hsame) .done
    · rw [decide_eq_false hearlier]
      refine .fine ?_ .done
      intro issue hviolation
      rcases hviolation.of_rule rule with ⟨blank, -⟩ | ⟨-, -, hmem, -⟩ | ⟨hfield, -⟩
      · exact blank hfilled
      · exact hearlier hmem
      · cases hfield
  · rw [isBlankText_iff.2 hfilled]
    exact .violated (.blank rule (.unnamed hfilled) hfilled) .done

/-- A blank pattern is an issue, and so is a filled one that is not usable. -/
theorem enumerates_patternIssues : Enumerates rules [(i, .pattern)] d.patternIssues := by
  unfold RuleDefinition.patternIssues
  by_cases hfilled : Filled d.pattern
  · rw [isBlankText_eq_false_iff.2 hfilled]
    rcases d.toRule_cases with ⟨husable, made, hmade⟩ | ⟨cause, hflaw, hfails⟩
    · rw [hmade]
      refine .fine ?_ .done
      intro issue hviolation
      rcases hviolation.of_rule rule with ⟨blank, -⟩ | ⟨hfield, -⟩ | ⟨-, -, cause, flaw, -⟩
      · exact blank hfilled
      · cases hfield
      · exact flaw.not_usable husable
    · rw [hfails]
      exact .violated (.flawed rule d.called_name? hfilled hflaw) .done
  · rw [isBlankText_iff.2 hfilled]
    exact .violated (.blank rule d.called_name? hfilled) .done

/-- The check of one rule lists the conditions that it violates. -/
theorem enumerates_issues :
    Enumerates rules (placesOf i) (d.issues ((rules.take i).map (·.id))) := by
  have hid := enumerates_idIssues rule
  have hfile : Enumerates rules [(i, .file)] (d.blankIssues .file d.file) :=
    enumerates_blankIssues rule (by decide) (by decide)
  have hinsert : Enumerates rules [(i, .insert)] (d.blankIssues .insert d.insert) :=
    enumerates_blankIssues rule (by decide) (by decide)
  exact ((hid.append hfile).append hinsert).append (enumerates_patternIssues rule)

end Rule

/-- The check of the rules from a position on lists the conditions that they violate. -/
theorem enumerates_ruleIssues_drop (rules : List RuleDefinition) (i : Nat) :
    Enumerates rules ((List.range' i (rules.length - i)).flatMap placesOf)
      (ruleIssues ((rules.take i).map (·.id)) (rules.drop i)) := by
  -- The induction is on what is left; the ids before it are carried along by the check.
  generalize hleft : rules.length - i = left
  induction left generalizing i with
  | zero =>
    rw [List.drop_of_length_le (by omega)]
    exact .done
  | succ left ih =>
    have hi : i < rules.length := by omega
    have hrule : rules[i]? = some rules[i] := List.getElem?_eq_getElem hi
    have hearlier : (rules.take i).map (·.id) ++ [rules[i].id]
        = (rules.take (i + 1)).map (·.id) := by
      rw [List.take_succ_eq_append_getElem hi, List.map_append]
      rfl
    rw [List.drop_eq_getElem_cons hi, ruleIssues, hearlier, List.range'_succ, List.flatMap_cons]
    exact (enumerates_issues hrule).append (ih (i + 1) (by omega))

/-- The check of rules lists the conditions that they violate. -/
theorem enumerates_ruleIssues (rules : List RuleDefinition) :
    Enumerates rules (places rules) (ruleIssues [] rules) := by
  rw [places, List.range_eq_range']
  exact enumerates_ruleIssues_drop rules 0

/-! ## Valid configurations -/

/-- Do all rules have what they need, and no two of them the same id? -/
structure Sound (rules : List RuleDefinition) : Prop where
  filled : ∀ d ∈ rules, ∀ field, Filled (d.text field)
  usable : ∀ d ∈ rules, Pattern.Usable d.pattern
  distinct : rules.Pairwise fun d e => d.id ≠ e.id

theorem mem_places_iff {place : Nat × RuleField} :
    place ∈ places rules ↔ place.1 < rules.length := by
  obtain ⟨i, field⟩ := place
  have hfield : field ∈ RuleField.all := by cases field <;> decide
  simp [places, placesOf, hfield]

/-- Where a rule stands, the fields of that position belong to the places. -/
theorem mem_places_of_rule {field : RuleField} (rule : rules[i]? = some d) :
    (i, field) ∈ places rules :=
  mem_places_iff.2 (List.getElem?_eq_some_iff.1 rule).1

/-- Rules are sound exactly if they violate no condition. -/
theorem sound_iff :
    Sound rules ↔ ∀ place ∈ places rules, ∀ issue, ¬ Violation rules place issue := by
  constructor
  · intro hsound place _ issue hviolation
    cases hviolation with
    | blank rule called blank => exact blank (hsound.filled _ (List.mem_of_getElem? rule) _)
    | repeated rule filled earlier before same =>
      obtain ⟨hi, rfl⟩ := List.getElem?_eq_some_iff.1 rule
      obtain ⟨hj, rfl⟩ := List.getElem?_eq_some_iff.1 earlier
      exact List.pairwise_iff_getElem.1 hsound.distinct _ _ hj hi before same
    | flawed rule called filled flaw =>
      exact flaw.not_usable (hsound.usable _ (List.mem_of_getElem? rule))
  · intro hnone
    have hfilled : ∀ d ∈ rules, ∀ field, Filled (d.text field) := by
      intro d hd field
      obtain ⟨i, rule⟩ := List.mem_iff_getElem?.1 hd
      apply Classical.byContradiction
      intro hblank
      exact hnone (i, field) (mem_places_of_rule rule) _ (.blank rule d.called_name? hblank)
    refine ⟨hfilled, ?_, ?_⟩
    · intro d hd
      obtain ⟨i, rule⟩ := List.mem_iff_getElem?.1 hd
      rcases d.toRule_cases with ⟨husable, -⟩ | ⟨cause, hflaw, -⟩
      · exact husable
      · exact absurd (.flawed rule d.called_name? (hfilled d hd .pattern) hflaw)
          (hnone (i, .pattern) (mem_places_of_rule rule) _)
    · refine List.pairwise_iff_getElem.2 fun j i hj hi hlt hsame => ?_
      have rule := List.getElem?_eq_getElem hi
      exact hnone (i, .id) (mem_places_of_rule rule) _ (.repeated rule
        (hfilled _ (List.getElem_mem hi) .id) (List.getElem?_eq_getElem hj) hlt hsame)

variable {c : PatchConfig}

/-- The issues of a configuration: that it has no rules, or else what its rules violate. -/
theorem issues_cases (c : PatchConfig) :
    (c.rules = [] ∧ c.issues = [.emptyRuleList]) ∨
      (c.rules ≠ [] ∧ Enumerates c.rules (places c.rules) c.issues) := by
  unfold issues
  by_cases hnil : c.rules = []
  · rw [hnil]
    exact Or.inl ⟨rfl, rfl⟩
  · rw [if_neg (by simpa using hnil)]
    exact Or.inr ⟨hnil, enumerates_ruleIssues c.rules⟩

theorem validate_eq_ok_iff_issues : c.validate = .ok () ↔ c.issues = [] := by
  unfold validate
  cases c.issues with
  | nil => simp
  | cons issue issues => simp

theorem validate_eq_error_iff_issues {issues : List ConfigIssue} :
    c.validate = .error issues ↔ issues ≠ [] ∧ c.issues = issues := by
  unfold validate
  cases c.issues with
  | nil =>
    simp only [List.isEmpty_nil, if_true, reduceCtorEq, false_iff]
    rintro ⟨hne, heq⟩
    exact hne heq.symm
  | cons issue rest =>
    simp only [List.isEmpty_cons, Bool.false_eq_true, if_false, Except.error.injEq]
    constructor
    · rintro rfl
      exact ⟨List.cons_ne_nil _ _, rfl⟩
    · exact fun h => h.2

/-- A configuration is valid exactly if it has a rule, and its rules are sound. -/
theorem validate_eq_ok_iff_sound : c.validate = .ok () ↔ c.rules ≠ [] ∧ Sound c.rules := by
  rw [validate_eq_ok_iff_issues]
  rcases issues_cases c with ⟨hnil, hissues⟩ | ⟨hsome, henum⟩
  · simp [hnil, hissues]
  · rw [henum.eq_nil_iff, ← sound_iff]
    exact ⟨fun h => ⟨hsome, h⟩, fun h => h.2⟩

/-- The issues of a configuration that is not valid are those that it has, and no others. -/
theorem validate_eq_error_iff_enumerates {issues : List ConfigIssue} :
    c.validate = .error issues ↔
      (c.rules = [] ∧ issues = [.emptyRuleList]) ∨
        (c.rules ≠ [] ∧ issues ≠ [] ∧ Enumerates c.rules (places c.rules) issues) := by
  rw [validate_eq_error_iff_issues]
  rcases issues_cases c with ⟨hnil, hissues⟩ | ⟨hsome, henum⟩
  · rw [hissues]
    constructor
    · rintro ⟨-, rfl⟩
      exact Or.inl ⟨hnil, rfl⟩
    · rintro (⟨-, rfl⟩ | ⟨hsome, -⟩)
      · exact ⟨List.cons_ne_nil _ _, rfl⟩
      · exact absurd hnil hsome
  · constructor
    · rintro ⟨hne, rfl⟩
      exact Or.inr ⟨hsome, hne, henum⟩
    · rintro (⟨hnil, -⟩ | ⟨-, hne, henum'⟩)
      · exact absurd hnil hsome
      · exact ⟨hne, henum.unique henum'⟩

/-- The rules of a valid configuration compile. -/
theorem exists_toRule_of_validate (h : c.validate = .ok ()) :
    ∀ d ∈ c.rules, ∃ rule, d.toRule = .ok rule := by
  intro d hd
  rcases d.toRule_cases with ⟨-, hrule⟩ | ⟨cause, hflaw, -⟩
  · exact hrule
  · exact absurd ((validate_eq_ok_iff_sound.1 h).2.usable d hd) hflaw.not_usable

end PatchConfig

namespace RuleFile

variable {c : PatchConfig} {w : World} {path : String}

theorem validate_of_ofText {input : String} (h : ofText input = .ok c) : c.validate = .ok () := by
  unfold ofText at h
  split at h
  · cases h
  · split at h
    · cases h
    · split at h
      · rename_i hvalid
        obtain rfl := Except.ok.inj h
        exact hvalid
      · cases h

/-- A file that loads is a text that is read and valid. -/
theorem exists_ofText_of_load
    (h : ((load (m := StateM World) path).run w).1 = .ok c) :
    ∃ input, w.read path = .ok (Utf8.octets input) ∧ ofText input = .ok c := by
  rw [load, StateT.run_bind, World.host_read, pure_bind] at h
  cases hread : w.read path with
  | error cause =>
    rw [hread] at h
    cases h
  | ok bytes =>
    rw [hread] at h
    cases hdecode : Utf8.decodeString bytes with
    | error cause =>
      simp only [hdecode] at h
      cases h
    | ok input =>
      cases htext : ofText input with
      | error cause =>
        simp only [hdecode, htext] at h
        cases h
      | ok c' =>
        simp only [hdecode, htext] at h
        obtain rfl : c' = c := Except.ok.inj h
        refine ⟨input, ?_, htext⟩
        rw [Utf8.decodeString_eq_ok_iff.1 hdecode]

end RuleFile

/-- A configuration with any number of rules is valid exactly if it has one at least, all fields
are filled, all patterns usable and all ids different. Otherwise the issues are that there are no
rules, or, rule by rule and field by field, one for each condition that is violated, and none else.
So all rules of a rule file that is read compile. -/
theorem PatchConfig.validate_exact :
    (∀ c : PatchConfig, c.validate = .ok () ↔ c.rules ≠ [] ∧ Sound c.rules) ∧
    (∀ (c : PatchConfig) issues, c.validate = .error issues ↔
      (c.rules = [] ∧ issues = [.emptyRuleList]) ∨
        (c.rules ≠ [] ∧ issues ≠ [] ∧ Enumerates c.rules (places c.rules) issues)) ∧
    (∀ input c, RuleFile.ofText input = .ok c → ∀ d ∈ c.rules, ∃ rule, d.toRule = .ok rule) ∧
    (∀ (w : World) path c, ((RuleFile.load (m := StateM World) path).run w).1 = .ok c →
      ∀ d ∈ c.rules, ∃ rule, d.toRule = .ok rule) := by
  refine ⟨fun c => validate_eq_ok_iff_sound, fun c issues => validate_eq_error_iff_enumerates,
    ?_, ?_⟩
  · intro input c h
    exact exists_toRule_of_validate (RuleFile.validate_of_ofText h)
  · intro w path c h
    obtain ⟨input, -, htext⟩ := RuleFile.exists_ofText_of_load h
    exact exists_toRule_of_validate (RuleFile.validate_of_ofText htext)

/-- Three rules: one as it should be, one with the same id, no file and one group, and one with
nothing but a file. -/
def PatchConfig.mixed : PatchConfig where
  rules :=
    [{ id := "a", file := "a.rs", pattern := "(a)()", insert := "b" },
     { id := "a", file := " ", pattern := "(a)", insert := "b" },
     { id := "", file := "a.rs", pattern := "", insert := "\t" }]

/-- A rule file for the first of them. -/
def RuleFile.plainText : String := "[[rules]]\nid='a'\nfile='a.rs'\npattern='(a)()'\ninsert='b'\n"

/-- The issues of the three rules are all that is wrong with them, and a rule file that holds the
first one alone loads. -/
theorem PatchConfig.validate_exact_mixed :
    Enumerates mixed.rules (places mixed.rules)
      [.duplicateId "a", .missingField (some "a") .file,
        .invalidPattern (some "a") (.missingCaptures 1), .missingField none .id,
        .missingField none .insert, .missingField none .pattern] ∧
    ∃ c d, RuleFile.ofText RuleFile.plainText = .ok c ∧ d ∈ c.rules ∧
      ∃ rule, d.toRule = .ok rule := by
  obtain ⟨-, herror, hloads, -⟩ := validate_exact
  constructor
  · have hissues : mixed.issues =
        [.duplicateId "a", .missingField (some "a") .file,
          .invalidPattern (some "a") (.missingCaptures 1), .missingField none .id,
          .missingField none .insert, .missingField none .pattern] := by decide +kernel
    have hvalidate := validate_eq_error_iff_issues.2 ⟨List.cons_ne_nil _ _, hissues⟩
    rcases (herror mixed _).1 hvalidate with ⟨hnil, -⟩ | ⟨-, -, henum⟩
    · cases hnil
    · exact henum
  · have hread : (RuleFile.ofText RuleFile.plainText).toOption = some
        { rules := [{ id := "a", file := "a.rs", pattern := "(a)()", insert := "b" }] } := by
      decide +kernel
    cases htext : RuleFile.ofText RuleFile.plainText with
    | error cause =>
      rw [htext] at hread
      cases hread
    | ok c =>
      rw [htext] at hread
      obtain rfl := Option.some.inj hread
      exact ⟨_, _, rfl, List.mem_singleton_self _,
        hloads _ _ htext _ (List.mem_singleton_self _)⟩

end SourcePatch
