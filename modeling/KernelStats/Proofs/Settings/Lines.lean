import KernelStats.Settings.Line
import Mathlib.Data.List.DropRight
import Mathlib.Data.List.Infix
import Mathlib.Data.List.TakeWhile

/-!
# Lines, blanks and quotes

What the rest may know of how a settings file is taken apart. A text is cut at its line feeds. Blanks
around a line are of no account, and neither are those around a key or a value: a trim takes off all
blanks and nothing else. A line that does not start with a hash sign, and has a key before an equals sign,
assigns to that key what stands behind the sign, without its quotes if it has a pair of them.
-/

namespace KernelStats.Settings

/-! ### Trims -/

/-- A text that is not blank at either end. -/
structure Tight (s : Bytes) : Prop where
  front : s.head?.any isBlank = false
  back : s.getLast?.any isBlank = false

instance (s : Bytes) : Decidable (Tight s) :=
  decidable_of_iff (s.head?.any isBlank = false ∧ s.getLast?.any isBlank = false)
    ⟨fun ⟨front, back⟩ => { front, back }, fun h => ⟨h.front, h.back⟩⟩

section

variable {blanks s : Bytes}

theorem trim_of_blank (h : ∀ b ∈ s, isBlank b = true) : trim s = [] := by
  rw [trim, List.dropWhile_eq_nil_iff.2 h]
  rfl

theorem trim_prepend (h : ∀ b ∈ blanks, isBlank b = true) (s : Bytes) : trim (blanks ++ s) = trim s := by
  rw [trim, List.dropWhile_append_of_pos h, trim]

theorem trim_append (h : ∀ b ∈ blanks, isBlank b = true) (s : Bytes) : trim (s ++ blanks) = trim s := by
  have hblanks : ∀ b ∈ blanks.reverse, isBlank b = true := fun b hb => h b (List.mem_reverse.1 hb)
  rw [trim, trim, List.dropWhile_append]
  split
  · next hempty =>
    rw [List.dropWhile_eq_nil_iff.2 h, List.isEmpty_iff.1 hempty]
  · rw [List.reverse_append, List.dropWhile_append_of_pos hblanks]

theorem dropWhile_of_head? {p : UInt8 → Bool} (h : s.head?.any p = false) : s.dropWhile p = s := by
  cases s with
  | nil => rfl
  | cons b rest => exact List.dropWhile_cons_of_neg (by simpa using h)

theorem any_head?_dropWhile (p : UInt8 → Bool) (s : Bytes) : (s.dropWhile p).head?.any p = false := by
  have hhead := List.head?_dropWhile_not p s
  cases h : (s.dropWhile p).head? with
  | none => rfl
  | some b =>
    rw [h] at hhead
    exact hhead

theorem Tight.trim (h : Tight s) : trim s = s := by
  rw [Settings.trim, dropWhile_of_head? h.front, dropWhile_of_head? (by simpa using h.back), List.reverse_reverse]

theorem tight_trim (s : Bytes) : Tight (trim s) where
  front := by
    obtain ⟨back, hback⟩ : trim s <+: s.dropWhile isBlank := List.rdropWhile_prefix _ _
    have hfront := any_head?_dropWhile isBlank s
    rw [← hback, List.head?_append] at hfront
    cases hhead : (trim s).head? with
    | none => rfl
    | some b => rwa [hhead, Option.some_or] at hfront
  back := by
    rw [trim, List.getLast?_reverse]
    exact any_head?_dropWhile isBlank _

theorem exists_trim (s : Bytes) :
    ∃ front back, (∀ b ∈ front, isBlank b = true) ∧ (∀ b ∈ back, isBlank b = true) ∧
      s = front ++ trim s ++ back := by
  have hback : trim s ++ (s.dropWhile isBlank).rtakeWhile isBlank = s.dropWhile isBlank :=
    List.rdropWhile_append_rtakeWhile
  refine ⟨s.takeWhile isBlank, (s.dropWhile isBlank).rtakeWhile isBlank, fun b => List.mem_takeWhile_imp,
    fun b => List.mem_rtakeWhile_imp, ?_⟩
  rw [List.append_assoc, hback, List.takeWhile_append_dropWhile]

/-- Only the ends count. -/
theorem Tight.between {t : Bytes} (hs : Tight s) (hsne : s ≠ []) (ht : Tight t) (htne : t ≠ []) (middle : Bytes) :
    Tight (s ++ middle ++ t) where
  front := by
    rw [List.append_assoc, List.head?_append_of_ne_nil s hsne]
    exact hs.front
  back := by
    rw [List.getLast?_append_of_ne_nil _ htne]
    exact ht.back

theorem head?_trim {b : UInt8} (hb : isBlank b = false) (rest : Bytes) : (trim (b :: rest)).head? = some b := by
  rw [trim, List.dropWhile_cons_of_neg (by simp [hb]), List.reverse_cons, List.dropWhile_append,
    List.head?_reverse]
  split
  · rw [List.dropWhile_cons_of_neg (by simp [hb])]
    rfl
  · rw [List.getLast?_concat]

end

/-! ### Quotes -/

theorem unquote_quoted {q : UInt8} (hq : isQuote q = true) (value : Bytes) :
    unquote (q :: (value ++ [q])) = value := by
  cases value with
  | nil => simp [unquote, hq]
  | cons b rest =>
    have hlast : (b :: (rest ++ [q])).getLast? = some q := by
      rw [← List.cons_append, List.getLast?_concat]
    have hfront : (b :: (rest ++ [q])).dropLast = b :: rest := by
      rw [← List.cons_append, List.dropLast_concat]
    show (if isQuote q ∧ (b :: (rest ++ [q])).getLast? = some q then _ else _) = _
    rw [if_pos ⟨hq, hlast⟩]
    exact hfront

/-! ### Cutting a text into lines -/

section

variable {line : Bytes}

theorem lines_append (hline : lineFeed ∉ line) (rest : Bytes) :
    lines (line ++ lineFeed :: rest) = line :: lines rest := by
  induction line with
  | nil => simp [lines]
  | cons b line ih =>
    obtain ⟨hb, hline⟩ := not_or.1 (hline ∘ List.mem_cons.2)
    rw [List.cons_append, lines, if_neg (Ne.symm hb), ih hline]

/-- The last line may go without a line feed, unless it is empty. -/
theorem lines_of_inline (hline : lineFeed ∉ line) (hne : line ≠ []) : lines line = [line] := by
  induction line with
  | nil => exact absurd rfl hne
  | cons b line ih =>
    obtain ⟨hb, hline⟩ := not_or.1 (hline ∘ List.mem_cons.2)
    rw [lines, if_neg (Ne.symm hb)]
    cases line with
    | nil => rfl
    | cons c rest => rw [ih hline (List.cons_ne_nil c rest)]

end

/-! ### What a line assigns -/

/-- A text that a line can give a value to. -/
structure IsKey (key : Bytes) : Prop where
  named : key ≠ []
  tight : Tight key
  hash : key.head? ≠ some hashSign
  equals : equalsSign ∉ key

theorem not_mem_append_blanks {key blanks : Bytes} (hequals : equalsSign ∉ key)
    (hblanks : ∀ b ∈ blanks, isBlank b = true) : equalsSign ∉ key ++ blanks := by
  rw [List.mem_append]
  rintro (hkey | hblank)
  · exact hequals hkey
  · exact absurd (hblanks _ hblank) (by decide)

theorem split_at_sign {before : Bytes} (hbefore : equalsSign ∉ before) (value : Bytes) :
    (before ++ equalsSign :: value).takeWhile (· ≠ equalsSign) = before ∧
      (before ++ equalsSign :: value).dropWhile (· ≠ equalsSign) = equalsSign :: value := by
  have hne : ∀ b ∈ before, decide (b ≠ equalsSign) = true :=
    fun b hb => decide_eq_true fun heq => hbefore (heq ▸ hb)
  rw [List.takeWhile_append_of_pos hne, List.dropWhile_append_of_pos hne,
    List.takeWhile_cons_of_neg (by simp), List.dropWhile_cons_of_neg (by simp), List.append_nil]
  exact ⟨rfl, rfl⟩

namespace Assignment

variable {line line' blanks : Bytes}

theorem ofLine?_congr (h : trim line' = trim line) : ofLine? line' = ofLine? line := by
  unfold ofLine?
  rw [h]

theorem ofLine?_append (h : ∀ b ∈ blanks, isBlank b = true) (line : Bytes) :
    ofLine? (line ++ blanks) = ofLine? line := ofLine?_congr (trim_append h line)

theorem ofLine?_of_blank (h : ∀ b ∈ line, isBlank b = true) : ofLine? line = none := by
  unfold ofLine?
  rw [trim_of_blank h]
  rfl

theorem ofLine?_comment (h : ∀ b ∈ blanks, isBlank b = true) (text : Bytes) :
    ofLine? (blanks ++ hashSign :: text) = none := by
  rw [ofLine?_congr (trim_prepend h _)]
  unfold ofLine?
  exact if_pos (head?_trim (by decide) text)

theorem ofLine?_of_no_sign (hsign : equalsSign ∉ trim line) : ofLine? line = none := by
  have hnone : (trim line).dropWhile (· ≠ equalsSign) = [] :=
    List.dropWhile_eq_nil_iff.2 fun b hb => decide_eq_true fun heq => hsign (heq ▸ hb)
  unfold ofLine?
  simp only [hnone, ite_self]

theorem ofLine?_of_sign {before value : Bytes} (hline : trim line = before ++ equalsSign :: value)
    (hbefore : equalsSign ∉ before) :
    ofLine? line = if (trim line).head? = some hashSign ∨ trim before = [] then none
      else some { key := trim before, value := unquote (trim value) } := by
  obtain ⟨hfront, hbehind⟩ := split_at_sign hbefore value
  rw [← hline] at hfront hbehind
  unfold ofLine?
  simp only [hfront, hbehind]
  by_cases hhash : (trim line).head? = some hashSign
  · rw [if_pos hhash, if_pos (.inl hhash)]
  · rw [if_neg hhash]
    simp only [hhash, false_or]

theorem ofLine?_of_trim {key value : Bytes} (hline : trim line = key ++ blanks ++ equalsSign :: value)
    (hblanks : ∀ b ∈ blanks, isBlank b = true) (hkey : IsKey key) :
    ofLine? line = some { key, value := unquote (trim value) } := by
  have hhead : (trim line).head? ≠ some hashSign := by
    rw [hline, List.append_assoc, List.head?_append_of_ne_nil key hkey.named]
    exact hkey.hash
  have htrim : trim (key ++ blanks) = key := (trim_append hblanks key).trans hkey.tight.trim
  rw [ofLine?_of_sign hline (not_mem_append_blanks hkey.equals hblanks), htrim,
    if_neg (not_or.2 ⟨hhead, hkey.named⟩)]

end Assignment

end KernelStats.Settings
