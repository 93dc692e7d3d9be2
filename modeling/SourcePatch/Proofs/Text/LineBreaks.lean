import SourcePatch.Proofs.Text.Lines

/-!
# Line breaks of carriage return and newline

* `CrlfOnly`: in a text each newline directly follows a carriage return. `CrlfAfter` says so of a
  part of a text, and `crlfAfter_append` puts parts together.
* `crlfAfter_toCrlf` and `infix_toCrlf`: what becomes of a text whose line breaks are rewritten, and
  of the texts in it.
* `withCrlf` puts a carriage return in front of each newline. `crlfPosition` is where a position of
  the text comes to lie, and the parts of the new text are those of the old one.
-/

namespace SourcePatch.Text

/-! ## Texts with such line breaks only -/

/-- Does each newline of a part of a text directly follow a carriage return? In front of the part
stands `front`. -/
def CrlfAfter (front : Option Char) (cs : List Char) : Prop :=
  ∀ before after, cs = before ++ '\n' :: after → before.getLast?.or front = some '\r'

/-- Does each newline of a text directly follow a carriage return? -/
def CrlfOnly (cs : List Char) : Prop := CrlfAfter none cs

section CrlfAfter

variable {front front' : Option Char} {c : Char} {cs xs ys : List Char}

theorem crlfAfter_nil : CrlfAfter front [] := by
  intro before after h
  simp at h

theorem crlfAfter_cons :
    CrlfAfter front (c :: cs) ↔ (c = '\n' → front = some '\r') ∧ CrlfAfter (some c) cs := by
  have hlast (before : List Char) :
      (c :: before).getLast?.or front = before.getLast?.or (some c) := by
    rw [List.getLast?_cons]
    cases before.getLast? <;> rfl
  constructor
  · intro h
    refine ⟨?_, ?_⟩
    · rintro rfl
      exact h [] cs rfl
    · rintro before after rfl
      rw [← hlast]
      exact h (c :: before) after rfl
  · rintro ⟨hfirst, h⟩ before after heq
    cases before with
    | nil => exact hfirst (List.cons.inj heq).1
    | cons d before =>
      obtain ⟨rfl, hcs⟩ := List.cons.inj heq
      rw [hlast]
      exact h before after hcs

instance decidableCrlfAfter : (front : Option Char) → (cs : List Char) →
    Decidable (CrlfAfter front cs)
  | _, [] => .isTrue crlfAfter_nil
  | _, c :: cs =>
    have := decidableCrlfAfter (some c) cs
    decidable_of_iff' _ crlfAfter_cons

instance (cs : List Char) : Decidable (CrlfOnly cs) := decidableCrlfAfter none cs

/-- What stands in front of a part matters for a newline at its beginning only. -/
theorem CrlfAfter.change_front (h : CrlfAfter front cs)
    (hhead : cs.head? = some '\n' → front' = some '\r') : CrlfAfter front' cs := by
  cases cs with
  | nil => exact crlfAfter_nil
  | cons c cs =>
    rw [crlfAfter_cons] at h ⊢
    exact ⟨fun hc => hhead (congrArg some hc), h.2⟩

theorem crlfAfter_append :
    CrlfAfter front (xs ++ ys) ↔ CrlfAfter front xs ∧ CrlfAfter (xs.getLast?.or front) ys := by
  induction xs generalizing front with
  | nil => simp [crlfAfter_nil]
  | cons c cs ih =>
    have hlast : (c :: cs).getLast?.or front = cs.getLast?.or (some c) := by
      rw [List.getLast?_cons]
      cases cs.getLast? <;> rfl
    rw [List.cons_append, crlfAfter_cons, crlfAfter_cons, ih, hlast, and_assoc]

theorem CrlfAfter.front_eq (h : CrlfAfter front cs) (hhead : cs.head? = some '\n') :
    front = some '\r' := by
  obtain ⟨more, rfl⟩ := List.head?_eq_some_iff.1 hhead
  exact (crlfAfter_cons.1 h).1 rfl

/-! ## Rewritten line breaks -/

/-- Rewritten line breaks are such, whatever stands in front of the text. -/
theorem crlfAfter_toCrlf (front : Option Char) (cs : List Char) : CrlfAfter front (toCrlf cs) := by
  fun_induction toCrlf cs generalizing front with
  | case1 => exact crlfAfter_nil
  | case2 cs ih =>
    exact crlfAfter_cons.2 ⟨fun h => absurd h (by decide), crlfAfter_cons.2 ⟨fun _ => rfl, ih _⟩⟩
  | case3 cs hshape ih =>
    exact crlfAfter_cons.2 ⟨fun h => absurd h (by decide), crlfAfter_cons.2 ⟨fun _ => rfl, ih _⟩⟩
  | case4 c cs hshape hnewline ih =>
    exact crlfAfter_cons.2 ⟨fun h => absurd h hnewline, ih _⟩

theorem getLast?_toCrlf (cs : List Char) : (toCrlf cs).getLast? = cs.getLast? := by
  fun_induction toCrlf cs with
  | case1 => rfl
  | case2 cs ih => simp only [List.getLast?_cons, ih]
  | case3 cs hshape ih => simp [List.getLast?_cons, ih]
  | case4 c cs hshape hnewline ih => rw [List.getLast?_cons, List.getLast?_cons, ih]

theorem prefix_toCrlf {needle : List Char} (hneedle : CrlfOnly needle) (h : needle <+: cs) :
    needle <+: toCrlf cs := by
  -- Behind a character that is no carriage return the rest of the needle begins with no newline.
  have hrest {c : Char} {rest : List Char} (h : CrlfAfter (some c) rest) (hc : c ≠ '\r') :
      CrlfOnly rest :=
    h.change_front fun hhead => absurd (Option.some.inj (h.front_eq hhead)) hc
  fun_induction toCrlf cs generalizing needle with
  | case1 => exact h
  | case2 cs ih =>
    rcases List.prefix_cons_iff.1 h with rfl | ⟨rest, rfl, htail⟩
    · exact List.nil_prefix
    rcases List.prefix_cons_iff.1 htail with rfl | ⟨rest, rfl, hprefix⟩
    · exact List.prefix_append ['\r'] _
    · have hneedle := (crlfAfter_cons.1 (crlfAfter_cons.1 hneedle).2).2
      have hprefix := ih (hrest hneedle (by decide)) hprefix
      exact List.cons_prefix_cons.2 ⟨rfl, List.cons_prefix_cons.2 ⟨rfl, hprefix⟩⟩
  | case3 cs hshape ih =>
    rcases List.prefix_cons_iff.1 h with rfl | ⟨rest, rfl, h⟩
    · exact List.nil_prefix
    · cases (crlfAfter_cons.1 hneedle).1 rfl
  | case4 c cs hshape hnewline ih =>
    rcases List.prefix_cons_iff.1 h with rfl | ⟨rest, rfl, hprefix⟩
    · exact List.nil_prefix
    refine List.cons_prefix_cons.2 ⟨rfl, ih ?_ hprefix⟩
    refine (crlfAfter_cons.1 hneedle).2.change_front fun hhead => ?_
    -- A carriage return would have stood before the newline.
    obtain ⟨more, rfl⟩ := List.head?_eq_some_iff.1 hhead
    obtain ⟨more', hcs⟩ := hprefix
    have hc := Option.some.inj ((crlfAfter_cons.1 (crlfAfter_cons.1 hneedle).2).1 rfl)
    exact (hshape (more ++ more') hc hcs.symm).elim

/-- A text that has no other line breaks, but perhaps a newline at its beginning, is found again
where line breaks have been rewritten. -/
theorem infix_toCrlf {needle : List Char} (hneedle : CrlfAfter (some '\r') needle)
    (h : needle <:+: cs) : needle <:+: toCrlf cs := by
  obtain ⟨before, after, rfl⟩ := h
  cases needle with
  | nil => exact List.nil_infix
  | cons c needle =>
    by_cases hc : c = '\n'
    · -- The newline ends a line break, which is the same before and after.
      subst hc
      have hbefore : before ++ '\n' :: needle ++ after
          = (before ++ ['\n']) ++ (needle ++ after) := by simp
      have hlast : (toCrlf (before ++ ['\n'])).getLast? = some '\n' := by
        rw [getLast?_toCrlf, List.getLast?_concat]
      obtain ⟨front, hfront⟩ := List.getLast?_eq_some_iff.1 hlast
      have hrest := (crlfAfter_cons.1 hneedle).2
      have hprefix : needle <+: toCrlf (needle ++ after) := by
        refine prefix_toCrlf (hrest.change_front fun hhead => ?_) (List.prefix_append _ _)
        cases hrest.front_eq hhead
      obtain ⟨more, hmore⟩ := hprefix
      rw [hbefore, toCrlf_append (by simp), hfront, ← hmore]
      exact ⟨front, more, by simp⟩
    · have hprefix : c :: needle <+: toCrlf (c :: needle ++ after) := by
        refine prefix_toCrlf (hneedle.change_front ?_) (List.prefix_append _ _)
        intro hhead
        exact absurd (Option.some.inj hhead) hc
      obtain ⟨more, hmore⟩ := hprefix
      have hborder : (c :: needle ++ after).head? ≠ some '\n' := by simpa using hc
      rw [List.append_assoc, toCrlf_append fun _ => hborder, ← hmore]
      exact ⟨toCrlf before, more, by simp⟩

end CrlfAfter

/-! ## Carriage returns in front of newlines -/

/-- The text with a carriage return put in front of each newline. -/
def withCrlf : List Char → List Char
  | [] => []
  | c :: cs => if c = '\n' then '\r' :: '\n' :: withCrlf cs else c :: withCrlf cs

section WithCrlf

variable {cs xs ys : List Char}

theorem withCrlf_append (xs ys : List Char) : withCrlf (xs ++ ys) = withCrlf xs ++ withCrlf ys := by
  induction xs with
  | nil => rfl
  | cons c cs ih =>
    rw [List.cons_append, withCrlf, withCrlf, ih]
    split <;> rfl

/-- A text without line breaks stays as it is. -/
theorem withCrlf_of_not_mem (h : '\n' ∉ cs) : withCrlf cs = cs := by
  induction cs with
  | nil => rfl
  | cons c cs ih =>
    have hc : c ≠ '\n' := fun hc => h (hc ▸ List.mem_cons_self)
    rw [withCrlf, if_neg hc, ih fun hmem => h (List.mem_cons_of_mem c hmem)]

/-- In a text without carriage returns, that is how line breaks are rewritten. -/
theorem toCrlf_eq_withCrlf (h : '\r' ∉ cs) : toCrlf cs = withCrlf cs := by
  induction cs with
  | nil => exact toCrlf_nil
  | cons c cs ih =>
    have hc : c = '\r' → cs.head? ≠ some '\n' := fun hc => absurd (hc ▸ List.mem_cons_self) h
    rw [toCrlf_cons hc, withCrlf, ih fun hmem => h (List.mem_cons_of_mem c hmem)]

theorem mem_withCrlf {c : Char} (h : c ∈ withCrlf cs) : c = '\r' ∨ c ∈ cs := by
  induction cs with
  | nil => cases h
  | cons d cs ih =>
    have hrest (h : c ∈ withCrlf cs) : c = '\r' ∨ c ∈ d :: cs :=
      (ih h).imp_right (List.mem_cons_of_mem d)
    rw [withCrlf] at h
    split at h
    · rename_i hd
      rcases List.mem_cons.1 h with rfl | h
      · exact Or.inl rfl
      rcases List.mem_cons.1 h with rfl | h
      · exact Or.inr (hd ▸ List.mem_cons_self)
      · exact hrest h
    · rcases List.mem_cons.1 h with rfl | h
      · exact Or.inr List.mem_cons_self
      · exact hrest h

theorem filter_of_not_mem (h : '\r' ∉ cs) : cs.filter (· != '\r') = cs := by
  rw [List.filter_eq_self]
  intro c hc
  rw [bne_iff_ne]
  rintro rfl
  exact h hc

/-- Leaving out the carriage returns gives the text back. -/
theorem filter_withCrlf (h : '\r' ∉ cs) : (withCrlf cs).filter (· != '\r') = cs := by
  induction cs with
  | nil => rfl
  | cons c cs ih =>
    have hc : c ≠ '\r' := fun hc => h (hc ▸ List.mem_cons_self)
    have ih := ih fun hmem => h (List.mem_cons_of_mem c hmem)
    rw [withCrlf]
    split
    · rename_i hnewline
      rw [List.filter_cons_of_neg (by simp), List.filter_cons_of_pos (by simp), ih, hnewline]
    · rw [List.filter_cons_of_pos (by simpa using hc), ih]

theorem count_newline_withCrlf (cs : List Char) : (withCrlf cs).count '\n' = cs.count '\n' := by
  induction cs with
  | nil => rfl
  | cons c cs ih =>
    rw [withCrlf]
    split
    · rename_i hc
      rw [List.count_cons_of_ne (by decide), List.count_cons, List.count_cons, ih, hc]
    · rw [List.count_cons, List.count_cons, ih]

/-- A text without line breaks and carriage returns is found in the new text exactly if it is found
in the old one. -/
theorem infix_withCrlf_iff {needle : List Char} (hnewline : '\n' ∉ needle) (hreturn : '\r' ∉ needle)
    (h : '\r' ∉ cs) : needle <:+: withCrlf cs ↔ needle <:+: cs := by
  constructor
  · rintro ⟨before, after, hsplit⟩
    refine ⟨before.filter (· != '\r'), after.filter (· != '\r'), ?_⟩
    rw [← filter_withCrlf h, ← hsplit, List.filter_append, List.filter_append,
      filter_of_not_mem hreturn]
  · rintro ⟨before, after, rfl⟩
    refine ⟨withCrlf before, withCrlf after, ?_⟩
    rw [withCrlf_append, withCrlf_append, withCrlf_of_not_mem hnewline]

/-- Where the new text is cut, but not within a line break, the old one is cut as well. -/
theorem exists_of_withCrlf_eq_append (h : withCrlf cs = xs ++ ys) (hys : ys.head? ≠ some '\n') :
    ∃ us vs, cs = us ++ vs ∧ withCrlf us = xs ∧ withCrlf vs = ys := by
  induction cs generalizing xs with
  | nil =>
    obtain ⟨rfl, rfl⟩ := List.append_eq_nil_iff.1 h.symm
    exact ⟨[], [], rfl, rfl, rfl⟩
  | cons c cs ih =>
    cases xs with
    | nil => exact ⟨[], c :: cs, rfl, rfl, h⟩
    | cons x xs =>
      rw [withCrlf] at h
      split at h
      · rename_i hc
        obtain ⟨rfl, hrest⟩ := List.cons.inj h
        cases xs with
        | nil =>
          -- The cut would be within the line break.
          have hhead : ys.head? = some '\n' := congrArg List.head? hrest.symm
          exact absurd hhead hys
        | cons x xs =>
          obtain ⟨rfl, hcs⟩ := List.cons.inj hrest
          obtain ⟨us, vs, rfl, rfl, rfl⟩ := ih hcs
          exact ⟨c :: us, vs, rfl, by rw [withCrlf, if_pos hc], rfl⟩
      · rename_i hc
        obtain ⟨rfl, hcs⟩ := List.cons.inj h
        obtain ⟨us, vs, rfl, rfl, rfl⟩ := ih hcs
        exact ⟨c :: us, vs, rfl, by rw [withCrlf, if_neg hc], rfl⟩

/-- Between two texts of the new one, the second of which does not begin with a newline, there are
not only carriage returns. -/
theorem filter_ne_nil_of_withCrlf_eq {zs : List Char} (hreturn : '\r' ∉ cs)
    (h : withCrlf cs = xs ++ (ys ++ zs)) (hys : ys ≠ []) (hzs : zs.head? ≠ some '\n') :
    ys.filter (· != '\r') ≠ [] := by
  intro hnil
  rw [← List.append_assoc] at h
  obtain ⟨us, vs, rfl, hus, -⟩ := exists_of_withCrlf_eq_append h hzs
  have hreturn : '\r' ∉ us := fun hmem => hreturn (List.mem_append_left vs hmem)
  -- The last character of the part would be a carriage return of the old text.
  have hlast := getLast?_toCrlf us
  rw [toCrlf_eq_withCrlf hreturn, hus, List.getLast?_append,
    List.getLast?_eq_some_getLast hys, Option.some_or] at hlast
  have hfirst := List.filter_eq_nil_iff.1 hnil (ys.getLast hys) (List.getLast_mem hys)
  rw [bne_iff_ne, Ne, Decidable.not_not] at hfirst
  rw [hfirst] at hlast
  exact hreturn (List.mem_of_getLast? hlast.symm)

/-- Where a position of a text comes to lie in the new text. -/
def crlfPosition (cs : List Char) (i : Nat) : Nat := (withCrlf (cs.take i)).length

variable {i j : Nat}

theorem drop_withCrlf (cs : List Char) (i : Nat) :
    (withCrlf cs).drop (crlfPosition cs i) = withCrlf (cs.drop i) := by
  have hsplit := withCrlf_append (cs.take i) (cs.drop i)
  rw [List.take_append_drop] at hsplit
  rw [hsplit, crlfPosition, List.drop_left]

theorem take_withCrlf (cs : List Char) (i : Nat) :
    (withCrlf cs).take (crlfPosition cs i) = withCrlf (cs.take i) := by
  have hsplit := withCrlf_append (cs.take i) (cs.drop i)
  rw [List.take_append_drop] at hsplit
  rw [hsplit, crlfPosition, List.take_left]

theorem crlfPosition_add_slice (cs : List Char) (h : i ≤ j) :
    crlfPosition cs i + (withCrlf (slice cs i j)).length = crlfPosition cs j := by
  rw [crlfPosition, crlfPosition, ← take_append_slice cs h, withCrlf_append, List.length_append]

/-- The parts of the new text are those of the old one. -/
theorem slice_withCrlf (cs : List Char) (h : i ≤ j) :
    slice (withCrlf cs) (crlfPosition cs i) (crlfPosition cs j) = withCrlf (slice cs i j) := by
  rw [slice, drop_withCrlf, ← crlfPosition_add_slice cs h, Nat.add_sub_cancel_left]
  have hsplit := withCrlf_append (slice cs i j) (cs.drop j)
  rw [slice_append_drop cs h] at hsplit
  rw [hsplit, List.take_left]

theorem length_withCrlf_pos (h : cs ≠ []) : 0 < (withCrlf cs).length := by
  cases cs with
  | nil => exact absurd rfl h
  | cons c cs =>
    rw [withCrlf]
    split <;> simp

/-- Positions keep their order. -/
theorem crlfPosition_lt (cs : List Char) (h : i < j) (hj : j ≤ cs.length) :
    crlfPosition cs i < crlfPosition cs j := by
  have hslice : slice cs i j ≠ [] := by
    intro hnil
    have hlength := congrArg List.length hnil
    rw [slice, List.length_take, List.length_drop, List.length_nil] at hlength
    omega
  have hpos := length_withCrlf_pos hslice
  rw [← crlfPosition_add_slice cs (Nat.le_of_lt h)]
  omega

/-- Lines begin where they began. -/
theorem afterNewlines_withCrlf (cs : List Char) :
    afterNewlines 0 (withCrlf cs) = (afterNewlines 0 cs).map (crlfPosition cs) := by
  induction cs with
  | nil => rfl
  | cons c cs ih =>
    have hpositions : (afterNewlines 1 cs).map (crlfPosition (c :: cs))
        = (afterNewlines 0 (withCrlf cs)).map ((withCrlf [c]).length + ·) := by
      rw [ih, afterNewlines_eq_map, List.map_map, List.map_map]
      refine List.map_congr_left fun j _ => ?_
      have hsplit := withCrlf_append [c] (cs.take j)
      rw [Function.comp_apply, Function.comp_apply, crlfPosition, Nat.add_comm 1 j,
        List.take_succ_cons, ← List.singleton_append, hsplit, List.length_append, crlfPosition]
    rw [afterNewlines, withCrlf]
    split
    · rename_i hc
      have hwidth : (withCrlf [c]).length = 2 := by rw [hc]; rfl
      rw [List.map_cons, Nat.zero_add, hpositions, hwidth, afterNewlines, if_neg (by decide),
        afterNewlines, if_pos rfl, afterNewlines_eq_map]
      exact congrArg (· :: _) hwidth.symm
    · rename_i hc
      have hwidth : (withCrlf [c]).length = 1 := by rw [withCrlf, if_neg hc]; rfl
      rw [Nat.zero_add, hpositions, hwidth, afterNewlines, if_neg hc, afterNewlines_eq_map]

end WithCrlf

end SourcePatch.Text
