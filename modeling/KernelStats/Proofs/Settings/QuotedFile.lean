import KernelStats.Proofs.Settings.FirstLoad
import KernelStats.Proofs.Settings.Grammar

/-!
# Quoted settings files

A settings file can be written so that nothing is lost: every value goes in quotes, and then it may hold
any byte but a NUL and a line feed, quotes and blanks included. How it is written is free otherwise. There
may be blanks around keys, signs and values, either quotes, either line end, and blank lines and comments in
between. A program that loads such a file has exactly the variables that were written, and all others as
before.
-/

namespace KernelStats.Settings

/-! ### What is written -/

/-- Blanks within a line: spaces, tabs and carriage returns. -/
structure Spacing where
  bytes : Bytes
  blank : ∀ b ∈ bytes, isBlank b = true
  inline : lineFeed ∉ bytes

namespace Spacing

def none : Spacing := ⟨[], nofun, nofun⟩

def one (b : UInt8) (hblank : isBlank b = true) (hinline : lineFeed ≠ b) : Spacing :=
  ⟨[b], fun _ hb => List.mem_singleton.1 hb ▸ hblank, fun hb => hinline (List.mem_singleton.1 hb)⟩

def space : Spacing := one 32 rfl (by decide)

end Spacing

inductive Quote where
  | double
  | single

def Quote.byte : Quote → UInt8
  | double => 34
  | single => 39

inductive LineEnd where
  | lineFeed
  | returnLineFeed

/-- What stands before the line feed of a line end. -/
def LineEnd.spacing : LineEnd → Spacing
  | lineFeed => .none
  | returnLineFeed => .one 13 rfl (by decide)

/-- An assignment that can be written down: the key is one that a line can show, and the value stays on its
line. -/
structure Assignment.Writable (a : Assignment) : Prop where
  named : a.key ≠ []
  tight : Tight a.key
  hash : a.key.head? ≠ some hashSign
  equals : equalsSign ∉ a.key
  keyInline : lineFeed ∉ a.key
  keyNul : 0 ∉ a.key
  valueInline : lineFeed ∉ a.value
  valueNul : 0 ∉ a.value

instance (a : Assignment) : Decidable a.Writable :=
  decidable_of_iff
    (a.key ≠ [] ∧ Tight a.key ∧ a.key.head? ≠ some hashSign ∧ equalsSign ∉ a.key ∧ lineFeed ∉ a.key ∧
      0 ∉ a.key ∧ lineFeed ∉ a.value ∧ 0 ∉ a.value)
    ⟨fun ⟨named, tight, hash, equals, keyInline, keyNul, valueInline, valueNul⟩ =>
      { named, tight, hash, equals, keyInline, keyNul, valueInline, valueNul },
    fun h => ⟨h.named, h.tight, h.hash, h.equals, h.keyInline, h.keyNul, h.valueInline, h.valueNul⟩⟩

/-- A line of a quoted file, without its end. -/
inductive QuotedLine where
  | blank (spacing : Spacing)
  | comment (indent : Spacing) (text : Bytes) (inline : lineFeed ∉ text)
  | assignment (a : Assignment) (writable : a.Writable) (quote : Quote)
    (front behindKey beforeValue back : Spacing)

structure QuotedFile where
  ended : List (QuotedLine × LineEnd)
  last : Option QuotedLine := none

namespace QuotedLine

def bytes : QuotedLine → Bytes
  | blank spacing => spacing.bytes
  | comment indent text _ => indent.bytes ++ hashSign :: text
  | assignment a _ quote front behindKey beforeValue back =>
    front.bytes ++ (a.key ++ behindKey.bytes ++
      equalsSign :: (beforeValue.bytes ++ quote.byte :: (a.value ++ [quote.byte]))) ++ back.bytes

def assignment? : QuotedLine → Option Assignment
  | blank _ | comment _ _ _ => none
  | assignment a .. => some a

end QuotedLine

namespace QuotedFile

def text (f : QuotedFile) : Bytes :=
  (f.ended.flatMap fun (line, ending) => line.bytes ++ ending.spacing.bytes ++ [lineFeed]) ++
    (f.last.map QuotedLine.bytes).getD []

def assignments (f : QuotedFile) : List Assignment :=
  (f.ended.map Prod.fst ++ f.last.toList).filterMap QuotedLine.assignment?

end QuotedFile

/-! ### What is read -/

theorem Quote.isQuote_byte (q : Quote) : isQuote q.byte = true := by
  cases q with
  | double => decide
  | single => decide

theorem Quote.isBlank_byte (q : Quote) : isBlank q.byte = false := by
  cases q with
  | double => decide
  | single => decide

namespace QuotedLine

theorem inline (line : QuotedLine) : lineFeed ∉ line.bytes := by
  cases line with
  | blank spacing => exact spacing.inline
  | comment indent text inline =>
    simp only [bytes, List.mem_append, List.mem_cons, not_or]
    exact ⟨indent.inline, by decide, inline⟩
  | assignment a writable quote front behindKey beforeValue back =>
    have hquote : lineFeed ≠ quote.byte := by
      intro heq
      have hblank := quote.isBlank_byte
      rw [← heq] at hblank
      cases hblank
    simp only [bytes, List.mem_append, List.mem_cons, List.not_mem_nil, or_false, not_or]
    exact ⟨⟨front.inline, ⟨writable.keyInline, behindKey.inline⟩, by decide, beforeValue.inline, hquote,
      writable.valueInline, hquote⟩, back.inline⟩

theorem ofLine?_bytes (line : QuotedLine) : Assignment.ofLine? line.bytes = line.assignment? := by
  cases line with
  | blank spacing => exact Assignment.ofLine?_of_blank spacing.blank
  | comment indent text inline => exact Assignment.ofLine?_comment indent.blank text
  | assignment a writable quote front behindKey beforeValue back =>
    have hwritten : Tight (quote.byte :: (a.value ++ [quote.byte])) := by
      refine ⟨quote.isBlank_byte, ?_⟩
      rw [← List.cons_append, List.getLast?_concat]
      exact quote.isBlank_byte
    have hform : LineForm (bytes (assignment a writable quote front behindKey beforeValue back)) a.key
        (quote.byte :: (a.value ++ [quote.byte])) :=
      ⟨front.bytes, behindKey.bytes, beforeValue.bytes, back.bytes, by simp [bytes], front.blank, behindKey.blank,
        beforeValue.blank, back.blank, ⟨writable.named, writable.tight, writable.hash, writable.equals⟩, hwritten⟩
    rw [hform.ofLine?, unquote_quoted quote.isQuote_byte]
    rfl

end QuotedLine

namespace QuotedFile

theorem assignments_text (f : QuotedFile) : Settings.assignments f.text = f.assignments := by
  obtain ⟨ended, last⟩ := f
  induction ended with
  | nil =>
    cases last with
    | none => rfl
    | some line =>
      show (lines line.bytes).filterMap Assignment.ofLine? = [line].filterMap QuotedLine.assignment?
      by_cases hempty : line.bytes = []
      · have hnothing : line.assignment? = none := by
          rw [← line.ofLine?_bytes, hempty]
          rfl
        rw [hempty, List.filterMap_cons_none hnothing]
        rfl
      · rw [lines_of_inline line.inline hempty]
        simp only [List.filterMap_cons, List.filterMap_nil, line.ofLine?_bytes]
  | cons first rest ih =>
    obtain ⟨line, ending⟩ := first
    have hinline : lineFeed ∉ line.bytes ++ ending.spacing.bytes := by
      rw [List.mem_append]
      exact not_or.2 ⟨line.inline, ending.spacing.inline⟩
    have htext : text ⟨(line, ending) :: rest, last⟩ =
        (line.bytes ++ ending.spacing.bytes) ++ lineFeed :: text ⟨rest, last⟩ := by
      simp [text]
    have hread : Assignment.ofLine? (line.bytes ++ ending.spacing.bytes) = line.assignment? :=
      (Assignment.ofLine?_append ending.spacing.blank _).trans line.ofLine?_bytes
    have hrest : (lines (text ⟨rest, last⟩)).filterMap Assignment.ofLine? =
        (rest.map Prod.fst ++ last.toList).filterMap QuotedLine.assignment? := ih
    rw [htext, Settings.assignments, lines_append hinline]
    show _ = (line :: (rest.map Prod.fst ++ last.toList)).filterMap QuotedLine.assignment?
    rw [List.filterMap_cons, List.filterMap_cons, hread, hrest]

theorem writable (f : QuotedFile) : ∀ a ∈ f.assignments, a.Writable := by
  intro a ha
  obtain ⟨line, -, hline⟩ := List.mem_filterMap.1 ha
  cases line with
  | blank spacing => cases hline
  | comment indent text inline => cases hline
  | assignment b writable => cases hline; exact writable

end QuotedFile

/-! ### What the environment gets -/

namespace Environment

variable {as : List Assignment}

theorem texts_of_unset (hwritable : ∀ a ∈ as, a.Writable) (hdistinct : (as.map Assignment.key).Nodup)
    (e : Environment) (hunset : ∀ a ∈ as, e.get? a.key = none) :
    (as.foldl (fun e a => e.setDefault a.key a.value) e).texts =
      e.texts ++ as.map fun a => variableText a.key a.value := by
  induction as generalizing e with
  | nil => exact (List.append_nil _).symm
  | cons a as ih =>
    have ha := hwritable a List.mem_cons_self
    have hkey := Bytes.upToNul_of_not_mem ha.keyNul
    have hvalue := Bytes.upToNul_of_not_mem ha.valueNul
    obtain ⟨hnew, hrest⟩ := List.nodup_cons.1 hdistinct
    have hset : e.setDefault a.key a.value = { texts := e.texts ++ [variableText a.key a.value] } := by
      have hset := setDefault_of_unset (hkey.symm ▸ ha.named) (hkey.symm ▸ ha.equals)
        (hunset a List.mem_cons_self) a.value
      rwa [hkey, hvalue] at hset
    have hstill : ∀ b ∈ as, (e.setDefault a.key a.value).get? b.key = none := by
      intro b hb
      have hb' := hwritable b (List.mem_cons_of_mem a hb)
      have hne : a.key ≠ b.key := fun heq => hnew (heq ▸ List.mem_map_of_mem hb)
      have hbkey := Bytes.upToNul_of_not_mem hb'.keyNul
      rw [get?_setDefault e a.value (hkey.symm ▸ ha.equals) (hbkey.symm ▸ hb'.equals), hkey, hbkey,
        hunset b (List.mem_cons_of_mem a hb), if_neg fun h => hne h.2, Option.or_none]
    rw [List.foldl_cons, ih (fun b hb => hwritable b (List.mem_cons_of_mem a hb)) hrest _ hstill, hset,
      List.map_cons, List.append_assoc]
    rfl

/-- Of the texts that are written, each is found under its own key, and under no other name. -/
theorem findSome?_variableText (hwritable : ∀ a ∈ as, a.Writable) {name : Bytes} (hname : equalsSign ∉ name) :
    (as.map fun a => variableText a.key a.value).findSome? (valueIn? name) =
      (as.find? fun a => a.key = name).map Assignment.value := by
  induction as with
  | nil => rfl
  | cons a as ih =>
    have ha := hwritable a List.mem_cons_self
    rw [List.map_cons, List.findSome?_cons, valueIn?_variableText hname ha.equals, List.find?_cons,
      ih fun b hb => hwritable b (List.mem_cons_of_mem a hb)]
    by_cases hkey : a.key = name
    · simp [hkey]
    · simp [hkey]

theorem find?_key (hdistinct : (as.map Assignment.key).Nodup) {a : Assignment} (ha : a ∈ as) :
    (as.find? fun b => b.key = a.key) = some a := by
  induction as with
  | nil => cases ha
  | cons b as ih =>
    obtain ⟨hnew, hrest⟩ := List.nodup_cons.1 hdistinct
    rcases List.mem_cons.1 ha with rfl | ha
    · exact List.find?_cons_of_pos (by simp)
    · have hne : b.key ≠ a.key := fun heq => hnew (heq ▸ List.mem_map_of_mem ha)
      rw [List.find?_cons_of_neg (by simpa using hne), ih hrest ha]

end Environment

namespace Program

/-- **A quoted file gives back what was written.** If the first settings file on the search path was written with
every value in quotes and no key twice, and none of the keys is set, then the first load gives each key its value,
byte by byte, and leaves all other variables as they were: the new ones stand behind the old ones. -/
theorem quoted_file_is_reproduced (p : Program) (hfresh : p.loaded = false) (extra : List Route) (f : QuotedFile)
    (hfirst : p.files.FirstSettings p.cwd (p.searched extra) f.text)
    (hdistinct : (f.assignments.map Assignment.key).Nodup)
    (hunset : ∀ a ∈ f.assignments, p.environment.get? a.key = none) :
    let before := p.environment
    let after := (p.load extra).environment
    (∀ a ∈ f.assignments, after.get? a.key = some a.value ∧ after.get a.key = a.value) ∧
    (∀ name, equalsSign ∉ name.upToNul → (∀ a ∈ f.assignments, a.key ≠ name.upToNul) →
      after.get? name = before.get? name) ∧
    after.texts = before.texts ++ f.assignments.map fun a => variableText a.key a.value := by
  intro before after
  have hafter : after = f.assignments.foldl (fun e a => e.setDefault a.key a.value) before := by
    rw [← f.assignments_text]
    exact environment_load_of_some hfresh hfirst
  have htexts : after.texts = before.texts ++ f.assignments.map fun a => variableText a.key a.value := by
    rw [hafter]
    exact Environment.texts_of_unset f.writable hdistinct before hunset
  have hget : ∀ name, name.upToNul ≠ [] → equalsSign ∉ name.upToNul → after.get? name =
      (before.get? name).or ((f.assignments.find? fun a => a.key = name.upToNul).map Assignment.value) := by
    intro name hne hname
    rw [Environment.get?_eq, Environment.get?_eq, if_neg hne, if_neg hne, htexts, List.findSome?_append,
      Environment.findSome?_variableText f.writable hname]
  refine ⟨fun a ha => ?_, fun name hname hother => ?_, htexts⟩
  · have hwritable := f.writable a ha
    have hkey := Bytes.upToNul_of_not_mem hwritable.keyNul
    have hfound : after.get? a.key = some a.value := by
      rw [hget a.key (hkey.symm ▸ hwritable.named) (hkey.symm ▸ hwritable.equals), hunset a ha, hkey,
        Environment.find?_key hdistinct ha]
      rfl
    exact ⟨hfound, by rw [Environment.get, hfound, Option.getD_some]⟩
  · by_cases hne : name.upToNul = []
    · rw [Environment.get?_eq, Environment.get?_eq, if_pos hne, if_pos hne]
    · have hnone : (f.assignments.find? fun a => a.key = name.upToNul) = none := by
        simpa using hother
      rw [hget name hne hname, hnone]
      exact Option.or_none

/-- A comment, a blank line, a value with quotes, a sign and a hash of its own, and one that is a blank only and
comes last without a line end. -/
theorem quoted_file_is_reproduced_with_odd_values :
    let said : Assignment := { key := utf8 "A B", value := utf8 "\"it's = #1\"" }
    let blank : Assignment := { key := utf8 "B", value := utf8 " " }
    let f : QuotedFile :=
      { ended := [(.comment .space (utf8 "A=no") (by decide), .lineFeed), (.blank .space, .returnLineFeed),
          (.assignment said (by decide) .double .none .space .space .none, .returnLineFeed)],
        last := some (.assignment blank (by decide) .single .space .none .none .space) }
    let files : FileTree :=
      { nodes := [([utf8 "work"], .directory), ([utf8 "work", settingsName], .file f.text)] }
    let p : Program :=
      { environment := .ofPairs [(utf8 "A", utf8 "set")], files, cwd := some [utf8 "work"] }
    let after := (p.load []).environment
    f.text = utf8 " #A=no\n \r\nA B = \"\"it's = #1\"\"\r\n B=' ' " ∧ p.loaded = false ∧
      p.files.FirstSettings p.cwd (p.searched []) f.text ∧ (f.assignments.map Assignment.key).Nodup ∧
      (∀ a ∈ f.assignments, p.environment.get? a.key = none) ∧
      after.get said.key = said.value ∧ after.get blank.key = blank.value ∧
      after.get? (utf8 "A") = some (utf8 "set") := by
  intro said blank f files p after
  have hfresh : p.loaded = false := rfl
  have hfirst : p.files.FirstSettings p.cwd (p.searched []) f.text :=
    ⟨[], .absolute [utf8 "work"], [.absolute [], .absolute []], rfl, by cbv, nofun⟩
  have hdistinct : (f.assignments.map Assignment.key).Nodup := by decide
  have hunset : ∀ a ∈ f.assignments, p.environment.get? a.key = none := by decide
  obtain ⟨hwritten, hothers, -⟩ := quoted_file_is_reproduced p hfresh [] f hfirst hdistinct hunset
  refine ⟨by decide, hfresh, hfirst, hdistinct, hunset, (hwritten said (by decide)).2,
    (hwritten blank (by decide)).2, ?_⟩
  rw [hothers (utf8 "A") (by decide) (by decide)]
  decide

end Program

end KernelStats.Settings
