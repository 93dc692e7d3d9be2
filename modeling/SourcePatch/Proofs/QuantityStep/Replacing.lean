import SourcePatch.Proofs.QuantityStep.Layout
import SourcePatch.Proofs.Rule.Blocks

/-!
# What the built-in rule puts in the place of a match

The text that replaces a layout has its head, the method and its tail. Nothing in it looks like
something else.

* `Quiet`: no signature begins in a text. Layouts and their replacements are quiet behind their
  first character.
* `Layout.calm_text` and `Layout.calm_replacement`: no line in them opens a block.
* `Layout.replacement_ne`: no layout stands where a replacement stands.
* `Layout.guard_infix_replacement`: a replacement has the guard.
-/

namespace SourcePatch.QuantityStep

open SourcePatch.Text SourcePatch.ImplBlock

/-! ## Quiet texts -/

theorem opening_eq : opening = 'f' :: opening.tail := by decide

/-- No signature begins in the text, whatever follows it. -/
def Quiet (text : List Char) : Prop :=
  ∀ k, k < text.length → ∀ more, ¬ opening <+: text.drop k ++ more

theorem Quiet.append {xs ys : List Char} (hxs : Quiet xs) (hys : Quiet ys) : Quiet (xs ++ ys) := by
  intro k hk more
  by_cases hlt : k < xs.length
  · rw [List.drop_append_of_le_length (Nat.le_of_lt hlt), List.append_assoc]
    exact hxs k hlt (ys ++ more)
  · rw [List.length_append] at hk
    rw [show k = xs.length + (k - xs.length) by omega, ← List.drop_drop, List.drop_left]
    exact hys (k - xs.length) (by omega) more

/-- Whether a text is quiet is seen by comparing its ends with the signature. -/
theorem quiet_of_forall {text : List Char}
    (h : ∀ k, k < text.length → ¬ opening <+: text.drop k ∧ ¬ text.drop k <+: opening) :
    Quiet text := by
  intro k hk more hprefix
  -- A signature that runs over the end of the text begins with that end.
  rcases List.prefix_or_prefix_of_prefix hprefix (List.prefix_append (text.drop k) more) with
    hin | hin
  · exact (h k hk).1 hin
  · exact (h k hk).2 hin

theorem quiet_of_forall_ne {text : List Char} (h : ∀ c ∈ text, c ≠ 'f') : Quiet text := by
  intro k hk more hprefix
  obtain ⟨c, cs, hdrop⟩ : ∃ c cs, text.drop k = c :: cs := by
    cases hdrop : text.drop k with
    | nil =>
      have := congrArg List.length hdrop
      rw [List.length_drop, List.length_nil] at this
      omega
    | cons c cs => exact ⟨c, cs, rfl⟩
  have hmem : c ∈ text := List.mem_of_mem_drop (hdrop ▸ List.mem_cons_self)
  rw [hdrop] at hprefix
  rw [opening_eq, List.cons_append] at hprefix
  exact h c hmem (List.cons_prefix_cons.1 hprefix).1.symm

/-! ## Parts of replacements -/

/-- What comes between the head and the tail of a replacement. -/
def inserted (crlf : Bool) : List Char :=
  if crlf then toCrlf ("\n\n" ++ method).toList else ("\n\n" ++ method).toList

/-- What is used of the inserted text: no signature begins in it, no blank stands before an `i`,
the first visible character is an `a`, the guard is in it, and it ends with a brace. -/
theorem inserted_facts (crlf : Bool) :
    (∀ k, k < (inserted crlf).length →
      ¬ opening <+: (inserted crlf).drop k ∧ ¬ (inserted crlf).drop k <+: opening) ∧
    (inserted crlf).IsChain (fun a b => Blank.isBlank a = true → b ≠ 'i') ∧
    (∃ k, k < (inserted crlf).length ∧ ((inserted crlf).take k).all Blank.isBlank = true ∧
      ((inserted crlf).drop k).head? = some 'a') ∧
    containsText guard.toList (inserted crlf) = true ∧
    (inserted crlf).head? ≠ some 'i' ∧ (inserted crlf).getLast? = some '\x7d' := by
  revert crlf
  decide +kernel

/-- The signature is quiet behind its first character. -/
theorem quiet_tail_opening : Quiet opening.tail := quiet_of_forall (by decide +kernel)

/-- A signature in front of a quiet text is the only one. -/
theorem Quiet.behind_opening {text : List Char} (h : Quiet text) {k : Nat} (hpos : 0 < k)
    (hk : k < (opening ++ text).length) (more : List Char) :
    ¬ opening <+: (opening ++ text).drop k ++ more := by
  have hcons : opening ++ text = 'f' :: (opening.tail ++ text) := by
    rw [← List.cons_append, ← opening_eq]
  obtain ⟨k, rfl⟩ : ∃ j, k = j + 1 := ⟨k - 1, by omega⟩
  rw [hcons] at hk ⊢
  exact quiet_tail_opening.append h k (Nat.lt_of_succ_lt_succ hk) more

/-- A character that stands in no layout behind the signature. -/
def Foreign (c : Char) : Prop :=
  Blank.isBlank c = false ∧ c ∉ shortName ∧ c ∉ longName ∧ c ≠ '\x7d'

instance (c : Char) : Decidable (Foreign c) := inferInstanceAs (Decidable (_ ∧ _ ∧ _ ∧ _))

namespace Layout

variable (l : Layout) {c d : Char}

/-- The head behind the signature. -/
def body : List Char := l.space ++ (l.name ++ (l.closing ++ ['\x7d']))

theorem head_eq : l.head = opening ++ l.body := rfl

theorem ne_of_blank (hd : Foreign d) (hc : Blank.isBlank c = true) : c ≠ d := by
  rintro rfl
  rw [hd.1] at hc
  cases hc

theorem ne_of_mem_body (hd : Foreign d) (hc : c ∈ l.body) : c ≠ d := by
  rcases List.mem_append.1 hc with hc | hc
  · exact ne_of_blank hd (l.space_blank c hc)
  rcases List.mem_append.1 hc with hc | hc
  · rintro rfl
    rcases l.name_cases with hname | hname
    · exact hd.2.1 (hname ▸ hc)
    · exact hd.2.2.1 (hname ▸ hc)
  rcases List.mem_append.1 hc with hc | hc
  · exact ne_of_blank hd (l.closing_blank c hc)
  · rintro rfl
    exact hd.2.2.2 (List.mem_singleton.1 hc)

theorem ne_of_mem_tail (hd : Foreign d) (hc : c ∈ l.tail) : c ≠ d := by
  rcases List.mem_cons.1 hc with rfl | hc
  · exact ne_of_blank hd Blank.isBlank_newline
  rcases List.mem_append.1 hc with hc | hc
  · exact ne_of_blank hd (l.indent_blank c hc)
  · rintro rfl
    exact hd.2.2.2 (List.mem_singleton.1 hc)

/-- The tail of a replacement. -/
def ending (crlf : Bool) : List Char := if crlf then toCrlf l.tail else l.tail

theorem ne_of_mem_ending {crlf : Bool} (hd : Foreign d) (hc : c ∈ l.ending crlf) : c ≠ d := by
  cases crlf with
  | false => exact l.ne_of_mem_tail hd hc
  | true =>
    rcases mem_toCrlf hc with rfl | rfl | hc
    · exact ne_of_blank hd Blank.isBlank_carriageReturn
    · exact ne_of_blank hd Blank.isBlank_newline
    · exact l.ne_of_mem_tail hd hc

theorem ending_eq (crlf : Bool) : ∃ cs, l.ending crlf = cs ++ ['\x7d'] := by
  cases crlf with
  | false => exact ⟨'\n' :: l.indent, rfl⟩
  | true =>
    have hborder : ('\n' :: l.indent).getLast? = some '\r' → ['\x7d'].head? ≠ some '\n' := by
      intro _
      decide
    refine ⟨toCrlf ('\n' :: l.indent), ?_⟩
    rw [ending, if_pos rfl, tail, ← List.cons_append, toCrlf_append hborder]
    rfl

/-- The text that replaces a layout. -/
def replacement : List Char :=
  l.head ++ (inserted (hasCrlf l.text) ++ l.ending (hasCrlf l.text))

theorem replacement_eq :
    l.replacement = l.head ++ if hasCrlf l.text then toCrlf (rule.addition l.tail)
      else rule.addition l.tail := by
  have haddition : rule.addition l.tail = ("\n\n" ++ method).toList ++ l.tail := by
    rw [InsertionRule.addition, rule_insertion, rule_separator, String.toList_append]
  rw [replacement, inserted, ending, haddition]
  cases hasCrlf l.text with
  | false => rfl
  | true =>
    have hlast : ("\n\n" ++ method).toList.getLast? = some '\x7d' :=
      (inserted_facts false).2.2.2.2.2
    have hborder : ("\n\n" ++ method).toList.getLast? = some '\r' →
        l.tail.head? ≠ some '\n' := by
      rw [hlast]
      intro heq
      cases heq
    rw [if_pos rfl, if_pos rfl, if_pos rfl, toCrlf_append hborder]

/-! ## What replacements look like -/

theorem text_eq : l.text = opening ++ (l.body ++ (l.gap ++ l.tail)) := by
  rw [text, head_eq, List.append_assoc]

theorem opening_prefix_text (more : List Char) : opening <+: l.text ++ more := by
  rw [text_eq, List.append_assoc]
  exact List.prefix_append _ _

theorem length_text_pos : 0 < l.text.length := by
  have hopening : 0 < opening.length := by decide
  rw [text_eq, List.length_append]
  omega

theorem replacement_eq_opening_append : l.replacement
    = opening ++ (l.body ++ (inserted (hasCrlf l.text) ++ l.ending (hasCrlf l.text))) := by
  rw [replacement, head_eq, List.append_assoc]

theorem foreign_f : Foreign 'f' := by decide +kernel

theorem foreign_i : Foreign 'i' := by decide +kernel

theorem quiet_body : Quiet l.body := quiet_of_forall_ne fun _ hc => l.ne_of_mem_body foreign_f hc

/-- No signature begins in a layout behind its first character. -/
theorem quiet_text {k : Nat} (hpos : 0 < k) (hk : k < l.text.length) (more : List Char) :
    ¬ opening <+: l.text.drop k ++ more := by
  have hgap : Quiet l.gap :=
    quiet_of_forall_ne fun c hc => ne_of_blank foreign_f (l.gap_blank c hc)
  have htail : Quiet l.tail := quiet_of_forall_ne fun c hc => l.ne_of_mem_tail foreign_f hc
  rw [text_eq] at hk ⊢
  exact (l.quiet_body.append (hgap.append htail)).behind_opening hpos hk more

/-- No signature begins in a replacement behind its first character. -/
theorem quiet_replacement {k : Nat} (hpos : 0 < k) (hk : k < l.replacement.length)
    (more : List Char) : ¬ opening <+: l.replacement.drop k ++ more := by
  have hinserted : Quiet (inserted (hasCrlf l.text)) :=
    quiet_of_forall (inserted_facts (hasCrlf l.text)).1
  have hending : Quiet (l.ending (hasCrlf l.text)) :=
    quiet_of_forall_ne fun c hc => l.ne_of_mem_ending foreign_f hc
  rw [replacement_eq_opening_append] at hk ⊢
  exact (l.quiet_body.append (hinserted.append hending)).behind_opening hpos hk more

/-- Before no character is an `i` that stands in none of them. -/
theorem isChain_of_forall_ne {cs : List Char} (h : ∀ c ∈ cs, c ≠ 'i') :
    cs.IsChain fun a b => Blank.isBlank a = true → b ≠ 'i' := by
  induction cs with
  | nil => exact List.IsChain.nil
  | cons c cs ih =>
    have ih := ih (List.forall_mem_cons.1 h).2
    refine List.isChain_cons.2 ⟨?_, ih⟩
    intro d hd _
    exact h d (List.mem_cons_of_mem c (List.mem_of_mem_head? hd))

theorem ne_i_of_mem_head {c : Char} (hc : c ∈ l.head) : c ≠ 'i' := by
  rcases List.mem_append.1 hc with hc | hc
  · have hopening : opening.all (· != 'i') = true := by decide
    exact bne_iff_ne.1 (List.all_eq_true.1 hopening c hc)
  · exact l.ne_of_mem_body foreign_i hc

/-- No line of a layout opens a block. -/
theorem calm_text : Calm l.text := by
  have hsplit : l.text = (l.head ++ (l.gap ++ '\n' :: l.indent)) ++ ['\x7d'] := by
    simp [text, tail]
  have hne : ∀ c ∈ l.text, c ≠ 'i' := by
    intro c hc
    rcases List.mem_append.1 hc with hc | hc
    · exact l.ne_i_of_mem_head hc
    rcases List.mem_append.1 hc with hc | hc
    · exact ne_of_blank foreign_i (l.gap_blank c hc)
    · exact l.ne_of_mem_tail foreign_i hc
  have hchain := isChain_of_forall_ne hne
  rw [hsplit] at hchain ⊢
  exact calm_of_isChain isBlank_brace hchain

/-- No line of a replacement opens a block. -/
theorem calm_replacement : Calm l.replacement := by
  obtain ⟨-, hinserted, -, -, hhead, -⟩ := inserted_facts (hasCrlf l.text)
  obtain ⟨cs, hcs⟩ := l.ending_eq (hasCrlf l.text)
  have hend : ∀ c ∈ l.ending (hasCrlf l.text), c ≠ 'i' :=
    fun c hc => l.ne_of_mem_ending foreign_i hc
  have hchain : l.replacement.IsChain fun a b => Blank.isBlank a = true → b ≠ 'i' := by
    -- The method has a chain of its own; where the parts meet there is no `i` either.
    refine (isChain_of_forall_ne fun c hc => l.ne_i_of_mem_head hc).append
      (hinserted.append (isChain_of_forall_ne hend) ?_) ?_
    · intro a _ b hb _
      exact hend b (List.mem_of_mem_head? hb)
    · intro a _ b hb _
      rw [Option.mem_def, List.head?_append, Option.or_eq_some_iff] at hb
      rcases hb with hb | ⟨-, hb⟩
      · rintro rfl
        exact hhead hb
      · exact hend b (List.mem_of_mem_head? hb)
  have hsplit : l.replacement = (l.head ++ (inserted (hasCrlf l.text) ++ cs)) ++ ['\x7d'] := by
    rw [replacement, hcs]
    simp
  rw [hsplit] at hchain ⊢
  exact calm_of_isChain isBlank_brace hchain

/-- A replacement has the guard. -/
theorem guard_infix_replacement : guard.toList <:+: l.replacement := by
  have hguard := containsText_iff.1 (inserted_facts (hasCrlf l.text)).2.2.2.1
  exact (hguard.trans (List.prefix_append _ _).isInfix).trans (List.suffix_append _ _).isInfix

/-- No layout stands where a replacement stands: behind the head comes the method. -/
theorem replacement_ne (l' : Layout) (more more' : List Char) :
    l'.text ++ more ≠ l.replacement ++ more' := by
  intro heq
  obtain ⟨k, hk, hblank, hvisible⟩ := (inserted_facts (hasCrlf l.text)).2.2.1
  obtain ⟨rest, hrest⟩ : ∃ rest, (inserted (hasCrlf l.text)).drop k = 'a' :: rest := by
    cases hdrop : (inserted (hasCrlf l.text)).drop k with
    | nil =>
      rw [hdrop] at hvisible
      cases hvisible
    | cons c cs =>
      rw [hdrop] at hvisible
      exact ⟨cs, by rw [Option.some.inj hvisible]⟩
  have hinserted : inserted (hasCrlf l.text)
      = (inserted (hasCrlf l.text)).take k ++ 'a' :: rest := by
    rw [← hrest, List.take_append_drop]
  rw [text, replacement, List.append_assoc, List.append_assoc, List.append_assoc] at heq
  obtain ⟨-, hbehind⟩ := head_append_inj heq
  -- Behind equal heads come blanks on both sides, and then a brace here and an `a` there.
  have hbrace : (l'.gap ++ '\n' :: l'.indent) ++ '\x7d' :: more
      = (inserted (hasCrlf l.text)).take k
        ++ 'a' :: (rest ++ (l.ending (hasCrlf l.text) ++ more')) := by
    rw [hinserted] at hbehind
    simpa [tail] using hbehind
  have hblanks : ∀ c ∈ l'.gap ++ '\n' :: l'.indent, Blank.isBlank c = true := by
    intro c hc
    rcases List.mem_append.1 hc with hc | hc
    · exact l'.gap_blank c hc
    rcases List.mem_cons.1 hc with rfl | hc
    · exact Blank.isBlank_newline
    · exact l'.indent_blank c hc
  obtain ⟨-, hfirst, -⟩ := blanks_append_inj hblanks (List.all_eq_true.1 hblank) isBlank_brace
    (by decide) hbrace
  exact absurd hfirst (by decide)

end Layout

end SourcePatch.QuantityStep
