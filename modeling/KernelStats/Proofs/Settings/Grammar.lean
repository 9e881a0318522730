import KernelStats.Proofs.Settings.Lines

/-!
# The grammar of a line

A line assigns something exactly if it can be taken apart into a key, an equals sign and a value, with blanks
around each of them. There is one way at most to do so, as far as the key and the value go: a key holds no
equals sign, so the first one of the line divides it, and neither a key nor a value can take in any of the
blanks around it. A written value is read as it stands or, if it is quoted, without its quotes.
-/

namespace KernelStats.Settings

variable {line key written value : Bytes}

/-- The form of a line that assigns. Any blank may stand at any of the four places, a line feed included. -/
inductive LineForm (line key written : Bytes) : Prop where
  | intro (front behindKey beforeValue back : Bytes)
      (hline : line = front ++ key ++ behindKey ++ equalsSign :: (beforeValue ++ written ++ back))
      (hfront : ∀ b ∈ front, isBlank b = true) (hbehindKey : ∀ b ∈ behindKey, isBlank b = true)
      (hbeforeValue : ∀ b ∈ beforeValue, isBlank b = true) (hback : ∀ b ∈ back, isBlank b = true)
      (hkey : IsKey key) (hwritten : Tight written)

/-- What a written value is read as. One quote alone is not quoted. -/
inductive ReadsAs : (written value : Bytes) → Prop where
  | quoted {q : UInt8} (hq : isQuote q = true) (value : Bytes) : ReadsAs (q :: (value ++ [q])) value
  | plain {written : Bytes} (hplain : ∀ q value, isQuote q = true → written ≠ q :: (value ++ [q])) :
      ReadsAs written written

/-! ### Values -/

theorem readsAs_unquote (written : Bytes) : ReadsAs written (unquote written) := by
  match written with
  | [] => exact .plain nofun
  | [b] =>
    refine .plain fun q value _ heq => ?_
    have hlength := congrArg List.length heq
    simp at hlength
  | q :: b :: rest =>
    show ReadsAs _ (if isQuote q ∧ (b :: rest).getLast? = some q then (b :: rest).dropLast else _)
    split
    · next hquoted =>
      obtain ⟨value, hvalue⟩ := List.getLast?_eq_some_iff.1 hquoted.2
      rw [hvalue, List.dropLast_concat]
      exact .quoted hquoted.1 value
    · next hplain =>
      refine .plain fun q' value hq' heq => hplain ?_
      obtain ⟨rfl, hrest⟩ := List.cons.inj heq
      exact ⟨hq', by rw [hrest, List.getLast?_concat]⟩

theorem readsAs_iff : ReadsAs written value ↔ value = unquote written := by
  refine ⟨fun h => ?_, fun h => h ▸ readsAs_unquote written⟩
  cases h with
  | quoted hq => exact (unquote_quoted hq value).symm
  | plain hplain =>
    have hread := readsAs_unquote written
    generalize unquote written = value at hread ⊢
    cases hread with
    | quoted hq => exact absurd rfl (hplain _ _ hq)
    | plain => rfl

/-! ### Lines -/

theorem LineForm.trim_eq (h : LineForm line key written) :
    ∃ blanks value, (∀ b ∈ blanks, isBlank b = true) ∧ trim line = key ++ blanks ++ equalsSign :: value ∧
      trim value = written := by
  obtain ⟨front, behindKey, beforeValue, back, hline, hfront, hbehindKey, hbeforeValue, hback, hkey, hwritten⟩ := h
  by_cases hempty : written = []
  · -- the line ends with the sign
    have htight : Tight (key ++ behindKey ++ [equalsSign]) :=
      hkey.tight.between hkey.named (by decide) (List.cons_ne_nil _ _) behindKey
    have hblank : ∀ b ∈ beforeValue ++ back, isBlank b = true := List.forall_mem_append.2 ⟨hbeforeValue, hback⟩
    have hcore : line = front ++ (key ++ behindKey ++ [equalsSign]) ++ (beforeValue ++ back) := by
      simp [hline, hempty]
    refine ⟨behindKey, [], hbehindKey, ?_, hempty.symm⟩
    rw [hcore, trim_append hblank, trim_prepend hfront, htight.trim]
  · have htight : Tight (key ++ (behindKey ++ equalsSign :: beforeValue) ++ written) :=
      hkey.tight.between hkey.named hwritten hempty _
    have hcore : line = front ++ (key ++ (behindKey ++ equalsSign :: beforeValue) ++ written) ++ back := by
      simp [hline]
    refine ⟨behindKey, beforeValue ++ written, hbehindKey, ?_, ?_⟩
    · rw [hcore, trim_append hback, trim_prepend hfront, htight.trim]
      simp
    · rw [trim_prepend hbeforeValue, hwritten.trim]

theorem LineForm.isKey (h : LineForm line key written) : IsKey key := by
  obtain ⟨_, _, _, _, _, _, _, _, _, hkey, _⟩ := h
  exact hkey

theorem LineForm.ofLine? (h : LineForm line key written) :
    Assignment.ofLine? line = some { key, value := unquote written } := by
  obtain ⟨blanks, value, hblanks, hline, rfl⟩ := h.trim_eq
  exact Assignment.ofLine?_of_trim hline hblanks h.isKey

theorem LineForm.unique {key' written' : Bytes} (h : LineForm line key written)
    (h' : LineForm line key' written') : key = key' ∧ written = written' := by
  obtain ⟨blanks, value, hblanks, hline, rfl⟩ := h.trim_eq
  obtain ⟨blanks', value', hblanks', hline', rfl⟩ := h'.trim_eq
  obtain ⟨hbefore, hbehind⟩ := split_at_sign (not_mem_append_blanks h.isKey.equals hblanks) value
  obtain ⟨hbefore', hbehind'⟩ := split_at_sign (not_mem_append_blanks h'.isKey.equals hblanks') value'
  rw [← hline] at hbefore hbehind
  rw [← hline'] at hbefore' hbehind'
  have hkeys : key ++ blanks = key' ++ blanks' := hbefore.symm.trans hbefore'
  have hvalues : value = value' := (List.cons.inj (hbehind.symm.trans hbehind')).2
  refine ⟨?_, congrArg trim hvalues⟩
  rw [← h.isKey.tight.trim, ← trim_append hblanks key, hkeys, trim_append hblanks', h'.isKey.tight.trim]

theorem lineForm_of_ofLine? {a : Assignment} (h : Assignment.ofLine? line = some a) :
    ∃ written, LineForm line a.key written ∧ a.value = unquote written := by
  have hsign : equalsSign ∈ trim line := by
    by_contra hno
    rw [Assignment.ofLine?_of_no_sign hno] at h
    cases h
  obtain ⟨before, value, hline, hbefore⟩ := List.eq_append_cons_of_mem hsign
  rw [Assignment.ofLine?_of_sign hline hbefore] at h
  split at h
  · cases h
  · next hassigns =>
    cases h
    obtain ⟨hhash, hnamed⟩ := not_or.1 hassigns
    obtain ⟨front, back, hfront, hback, hwhole⟩ := exists_trim line
    obtain ⟨indent, behindKey, hindent, hbehindKey, hkey⟩ := exists_trim before
    obtain ⟨beforeValue, behind, hbeforeValue, hbehind, hvalue⟩ := exists_trim value
    -- the blanks in front of the key are off already
    have hfirst : indent = [] := by
      cases indent with
      | nil => rfl
      | cons b rest =>
        have htight := (tight_trim line).front
        rw [hline, hkey] at htight
        simp [hindent b List.mem_cons_self] at htight
    rw [hfirst, List.nil_append] at hkey
    refine ⟨trim value, ⟨front, behindKey, beforeValue, behind ++ back, ?_, hfront, hbehindKey, hbeforeValue,
      List.forall_mem_append.2 ⟨hbehind, hback⟩, ⟨hnamed, tight_trim before, ?_, ?_⟩, tight_trim value⟩, rfl⟩
    · calc line = front ++ trim line ++ back := hwhole
        _ = front ++ (trim before ++ behindKey ++ equalsSign :: (beforeValue ++ trim value ++ behind)) ++ back := by
          rw [hline, ← hkey, ← hvalue]
        _ = _ := by simp
    · rw [hline, hkey, List.append_assoc, List.head?_append_of_ne_nil _ hnamed] at hhash
      exact hhash
    · intro hmem
      rw [hkey] at hbefore
      exact hbefore (List.mem_append_left _ hmem)

/-- **A line follows the grammar or assigns nothing.** It assigns a value to a key exactly if it has the form,
with that key, and the value is what is written for it, read without its quotes. A line has the form in one way at
most, as far as key and written value go. Any bytes may make up a line. -/
theorem line_follows_grammar (line : Bytes) :
    (∀ a, Assignment.ofLine? line = some a ↔ ∃ written, LineForm line a.key written ∧ ReadsAs written a.value) ∧
    (∀ key written key' written', LineForm line key written → LineForm line key' written' →
      key = key' ∧ written = written') ∧
    (Assignment.ofLine? line = none ↔ ∀ key written, ¬LineForm line key written) := by
  refine ⟨fun a => ⟨fun h => ?_, ?_⟩, fun _ _ _ _ h h' => h.unique h', ?_⟩
  · obtain ⟨written, hform, hvalue⟩ := lineForm_of_ofLine? h
    exact ⟨written, hform, readsAs_iff.2 hvalue⟩
  · rintro ⟨written, hform, hvalue⟩
    rw [hform.ofLine?, ← readsAs_iff.1 hvalue]
  · constructor
    · intro hnone key written hform
      rw [hform.ofLine?] at hnone
      cases hnone
    · intro hno
      cases h : Assignment.ofLine? line with
      | none => rfl
      | some a =>
        obtain ⟨written, hform, -⟩ := lineForm_of_ofLine? h
        exact absurd hform (hno a.key written)

/-- A quote and a sign within a quoted value, a blank within the key, and a comment, which has no such form. -/
theorem line_follows_grammar_within_quotes :
    let line := utf8 " \tA B =\r \"'x=#\" \n"
    let key := utf8 "A B"
    let written := utf8 "\"'x=#\""
    LineForm line key written ∧
      (∀ key' written', LineForm line key' written' → key' = key ∧ written' = written) ∧
      ReadsAs written (utf8 "'x=#") ∧ Assignment.ofLine? line = some { key, value := utf8 "'x=#" } ∧
      ∀ key' written', ¬LineForm (utf8 " #A=1") key' written' := by
  intro line key written
  have hkey : IsKey key := ⟨by decide, by decide, by decide, by decide⟩
  have hblank : ∀ s : Bytes, s.all isBlank = true → ∀ b ∈ s, isBlank b = true := fun s => List.all_eq_true.1
  have hform : LineForm line key written :=
    ⟨utf8 " \t", utf8 " ", utf8 "\r ", utf8 " \n", by decide, hblank _ (by decide), hblank _ (by decide),
      hblank _ (by decide), hblank _ (by decide), hkey, by decide⟩
  have hread : ReadsAs written (utf8 "'x=#") := .quoted (by decide : isQuote 34 = true) (utf8 "'x=#")
  obtain ⟨hassigns, hunique, -⟩ := line_follows_grammar line
  exact ⟨hform, fun key' written' hform' => hunique key' written' key written hform' hform, hread,
    (hassigns _).2 ⟨written, hform, hread⟩, (line_follows_grammar (utf8 " #A=1")).2.2.1 (by decide)⟩

end KernelStats.Settings
