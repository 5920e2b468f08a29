import Mathlib.Data.List.Induction
import Mathlib.Logic.Relation
import Testbed.Os.Release
import Testbed.Proofs.Text.Cutting

/-! # What decides a release file

Of a release file only the last line for `ID` and the last line for `NAME` are
looked at, and of these only the values without what surrounds them. Whatever
edits leave these values alone, none of them changes what is detected.
-/

namespace Testbed.Os.Release

open Text

def identKey : List Char :=
  "ID".toList

def nameKey : List Char :=
  "NAME".toList

/-- The line gives the key a value: in front of its first equals sign stands the key with any
blanks around it, behind it the value in any double quotes, with any blanks around them. -/
def Sets (line key value : List Char) : Prop :=
  ∃ left right, line = left ++ '=' :: right ∧ '=' ∉ left ∧ strip isBlank left = key ∧
    strip (· = '\"') (strip isBlank right) = value

/-- The last of the lines for the key gives it the value. -/
def SetsLast (ls : List (List Char)) (key value : List Char) : Prop :=
  ∃ before line after, ls = before ++ line :: after ∧ Sets line key value ∧
    ∀ later ∈ after, ∀ other, ¬ Sets later key other

theorem splitField_append {left : List Char} (hleft : '=' ∉ left) (right : List Char) :
    splitField (left ++ '=' :: right) = some (left, right) := by
  induction left with
  | nil => rw [List.nil_append, splitField]
  | cons c left ih =>
    rw [List.mem_cons, not_or] at hleft
    rw [List.cons_append, splitField.eq_3 _ _ (Ne.symm hleft.1), ih hleft.2, Option.map_some]

theorem eq_of_splitField {line left right : List Char} (h : splitField line = some (left, right)) :
    line = left ++ '=' :: right ∧ '=' ∉ left := by
  induction line generalizing left with
  | nil => cases h
  | cons c line ih =>
    by_cases hc : c = '='
    · subst hc
      rw [splitField] at h
      cases h
      exact ⟨rfl, List.not_mem_nil⟩
    · rw [splitField.eq_3 _ _ hc] at h
      obtain ⟨⟨left', right'⟩, hrest, hpair⟩ := Option.map_eq_some_iff.mp h
      cases hpair
      obtain ⟨rfl, hleft⟩ := ih hrest
      exact ⟨rfl, by simp [Ne.symm hc, hleft]⟩

theorem field?_append {left : List Char} (hleft : '=' ∉ left) (right : List Char) :
    field? (left ++ '=' :: right) =
      some (strip isBlank left, strip (· = '\"') (strip isBlank right)) := by
  rw [field?, splitField_append hleft]
  rfl

theorem field?_eq_some {line key value : List Char} :
    field? line = some (key, value) ↔ Sets line key value := by
  constructor
  · intro h
    obtain ⟨⟨left, right⟩, hsplit, hpair⟩ := Option.map_eq_some_iff.mp h
    obtain ⟨hline, hleft⟩ := eq_of_splitField hsplit
    cases hpair
    exact ⟨left, right, hline, hleft, rfl, rfl⟩
  · rintro ⟨left, right, rfl, hleft, rfl, rfl⟩
    exact field?_append hleft right

theorem field?_eq_none {line : List Char} (h : '=' ∉ line) : field? line = none := by
  cases hfield : field? line with
  | none => rfl
  | some field =>
    obtain ⟨left, right, rfl, -⟩ := field?_eq_some.mp hfield
    exact absurd (by simp) h

theorem field?_append_return (line : List Char) : field? (line ++ ['\r']) = field? line := by
  by_cases hequals : '=' ∈ line
  · obtain ⟨left, right, rfl, hleft⟩ := List.eq_append_cons_of_mem hequals
    have hreturn : ∀ c ∈ ['\r'], isBlank c = true := List.forall_mem_singleton.mpr (by decide)
    rw [List.append_assoc, List.cons_append, field?_append hleft, field?_append hleft,
      strip_append_right right hreturn]
  · rw [field?_eq_none hequals, field?_eq_none (by simpa using hequals)]

/-- The value that the last of the lines for the key gives it. -/
def lastIn? (key : List Char) (ls : List (List Char)) : Option (List Char) :=
  ((ls.filterMap field?).filter fun (k, _) => k = key).getLast?.map (·.2)

variable {key value : List Char}

theorem lastIn?_append (key : List Char) (ls ls' : List (List Char)) :
    lastIn? key (ls ++ ls') = (lastIn? key ls').or (lastIn? key ls) := by
  rw [lastIn?, List.filterMap_append, List.filter_append, List.getLast?_append, Option.map_or]
  rfl

theorem lastIn?_cons (key line : List Char) (ls : List (List Char)) :
    lastIn? key (line :: ls) = (lastIn? key ls).or (lastIn? key [line]) :=
  lastIn?_append key [line] ls

theorem lastIn?_singleton {line : List Char} :
    lastIn? key [line] = some value ↔ Sets line key value := by
  rw [← field?_eq_some, lastIn?, List.filterMap_cons]
  rcases field? line with - | ⟨key', value'⟩
  · simp
  · by_cases hkey : key' = key <;> simp [hkey]

theorem lastIn?_singleton_eq_none {line : List Char} :
    lastIn? key [line] = none ↔ ∀ value, ¬ Sets line key value := by
  rw [Option.eq_none_iff_forall_ne_some]
  exact forall_congr' fun value => not_congr lastIn?_singleton

theorem setsLast_concat {ls : List (List Char)} {line : List Char} :
    SetsLast (ls ++ [line]) key value ↔
      Sets line key value ∨ (∀ other, ¬ Sets line key other) ∧ SetsLast ls key value := by
  constructor
  · rintro ⟨before, last, after, heq, hlast, hafter⟩
    rcases List.eq_nil_or_concat after with rfl | ⟨after, later, rfl⟩
    · obtain ⟨-, hline⟩ := List.append_inj' heq rfl
      exact Or.inl (List.singleton_inj.mp hline ▸ hlast)
    · rw [List.concat_eq_append] at heq hafter
      rw [← List.cons_append, ← List.append_assoc] at heq
      obtain ⟨rfl, hline⟩ := List.append_inj' heq rfl
      obtain rfl := List.singleton_inj.mp hline
      refine Or.inr ⟨hafter line (by simp), before, last, after, rfl, hlast, fun later hlater => ?_⟩
      exact hafter later (List.mem_append_left _ hlater)
  · rintro (hline | ⟨hline, before, last, after, rfl, hlast, hafter⟩)
    · exact ⟨ls, line, [], rfl, hline, nofun⟩
    · refine ⟨before, last, after ++ [line], by simp, hlast, fun later hlater => ?_⟩
      rcases List.mem_append.mp hlater with hlater | hlater
      · exact hafter later hlater
      · exact List.mem_singleton.mp hlater ▸ hline

theorem lastIn?_eq_some {ls : List (List Char)} :
    lastIn? key ls = some value ↔ SetsLast ls key value := by
  induction ls using List.reverseRecOn with
  | nil => simp [lastIn?, SetsLast]
  | append_singleton ls line ih =>
    rw [lastIn?_append, Option.or_eq_some_iff, lastIn?_singleton, lastIn?_singleton_eq_none, ih,
      setsLast_concat]

theorem value?_eq_some {text : List Char} :
    value? key text = some value ↔ SetsLast (lines text) key value :=
  lastIn?_eq_some

/-- A line of a text, without what ends it. -/
structure Line where
  chars : List Char
  unbroken : '\n' ∉ chars

/-- The text of lines, with line feeds between them. -/
def textOf (ls : List Line) : String :=
  String.ofList (['\n'].intercalate (ls.map Line.chars))

theorem exists_intercalate_eq (cs : List Char) :
    ∃ line ls, ['\n'].intercalate ((line :: ls).map Line.chars) = cs := by
  induction cs with
  | nil => exact ⟨⟨[], List.not_mem_nil⟩, [], rfl⟩
  | cons c cs ih =>
    obtain ⟨line, ls, rfl⟩ := ih
    by_cases hc : c = '\n'
    · subst hc
      exact ⟨⟨[], List.not_mem_nil⟩, line :: ls, List.intercalate_cons_cons⟩
    · have hunbroken : '\n' ∉ c :: line.chars := by simp [Ne.symm hc, line.unbroken]
      exact ⟨⟨c :: line.chars, hunbroken⟩, ls, List.intercalate_cons_cons_left⟩

theorem exists_textOf_eq (text : String) : ∃ ls, textOf ls = text := by
  obtain ⟨line, ls, hcs⟩ := exists_intercalate_eq text.toList
  exact ⟨line :: ls, by rw [textOf, hcs, String.ofList_toList]⟩

theorem fields_intercalate (ls : List Line) :
    fields (['\n'].intercalate (ls.map Line.chars)) = (ls.map Line.chars).filterMap field? := by
  induction ls with
  | nil => rfl
  | cons line ls ih =>
    cases ls with
    | nil =>
      rw [List.map_singleton, List.intercalate_singleton, fields]
      by_cases hne : line.chars = []
      · rw [hne]
        rfl
      · rw [lines_of_unbroken line.unbroken hne]
    | cons next ls =>
      obtain ⟨kept, hkept, hlines⟩ := exists_lines_append_feed line.unbroken
        (['\n'].intercalate ((next :: ls).map Line.chars))
      -- A carriage return that is lost is a blank behind the value, if there is one.
      have hfield : field? kept = field? line.chars := by
        rcases hkept with heq | heq
        · rw [heq]
        · rw [heq, field?_append_return]
      rw [List.map_cons, List.map_cons, List.intercalate_cons_cons, ← List.map_cons,
        List.append_assoc, List.singleton_append, fields, hlines, List.filterMap_cons,
        List.filterMap_cons, hfield, ← fields, ih]

theorem value?_textOf (key : List Char) (ls : List Line) :
    value? key (textOf ls).toList = lastIn? key (ls.map Line.chars) := by
  rw [textOf, String.toList_ofList, value?, fields_intercalate]
  rfl

/-- One line says the same as another one in a different spelling. -/
inductive Respelling (line line' : Line) : Prop
  /-- Blanks come in around the key and around the value. -/
  | blanks {left right a b c d : List Char} : '=' ∉ left → line.chars = left ++ '=' :: right →
      (∀ x ∈ a ++ b ++ c ++ d, isBlank x = true) →
      line'.chars = (a ++ left ++ b) ++ '=' :: (c ++ right ++ d) → Respelling line line'
  /-- A value without blanks around it gets double quotes. -/
  | quotes {left right : List Char} : '=' ∉ left → line.chars = left ++ '=' :: right →
      strip isBlank right = right → line'.chars = left ++ '=' :: ('\"' :: right ++ ['\"']) →
      Respelling line line'
  /-- The line ends with a carriage return in front of the line feed. -/
  | carriageReturn : line'.chars = line.chars ++ ['\r'] → Respelling line line'

/-- What can be done to the lines of a text at one place. Undone, it takes a line out again or
takes the blanks, double quotes or carriage return away. -/
inductive Edit : List Line → List Line → Prop
  /-- A line comes in that is for neither of the two keys. -/
  | insert (before after : List Line) {line : Line} :
      (∀ value, ¬ Sets line.chars identKey value) → (∀ value, ¬ Sets line.chars nameKey value) →
      Edit (before ++ after) (before ++ line :: after)
  /-- Two neighbours that are not for the same key change places. -/
  | exchange (before after : List Line) {line line' : Line} :
      (∀ key value value', Sets line.chars key value → ¬ Sets line'.chars key value') →
      Edit (before ++ line :: line' :: after) (before ++ line' :: line :: after)
  /-- A line gets another value, while a later line is for the same key. -/
  | revalue (before between after : List Line) {line line' later : Line}
      {key value value' last : List Char} :
      Sets line.chars key value → Sets line'.chars key value' → Sets later.chars key last →
      Edit (before ++ line :: (between ++ later :: after))
        (before ++ line' :: (between ++ later :: after))
  /-- A line is spelled in another way. -/
  | respell (before after : List Line) {line line' : Line} : Respelling line line' →
      Edit (before ++ line :: after) (before ++ line' :: after)

theorem Respelling.field?_eq {line line' : Line} (h : Respelling line line') :
    field? line.chars = field? line'.chars := by
  cases h with
  | @blanks left right a b c d hleft hline hblank hline' =>
    simp only [List.forall_mem_append] at hblank
    obtain ⟨⟨⟨ha, hb⟩, hc⟩, hd⟩ := hblank
    have hequals {blanks : List Char} (h : ∀ x ∈ blanks, isBlank x = true) : '=' ∉ blanks :=
      fun hmem => absurd (h '=' hmem) (by decide)
    have hleft' : '=' ∉ a ++ left ++ b := by simp [hequals ha, hequals hb, hleft]
    rw [hline, hline', field?_append hleft, field?_append hleft', strip_append ha left hb,
      strip_append hc right hd]
  | @quotes left right hleft hline hstripped hline' =>
    have hquote : ∀ x ∈ ['\"'], decide (x = '\"') = true :=
      List.forall_mem_singleton.mpr (by decide)
    rw [hline, hline', field?_append hleft, field?_append hleft, hstripped,
      strip_between (by decide) right (by decide), ← List.singleton_append,
      strip_append hquote right hquote]
  | carriageReturn hline' => rw [hline', field?_append_return]

theorem Sets.key_eq {line key' value' : List Char} (h : Sets line key value)
    (h' : Sets line key' value') : key = key' := by
  have hpair := (field?_eq_some.mpr h).symm.trans (field?_eq_some.mpr h')
  exact (Prod.mk.inj (Option.some.inj hpair)).1

section Lines

variable {line : List Char}

theorem lastIn?_idle (hidle : ∀ value, ¬ Sets line key value) (before after : List (List Char)) :
    lastIn? key (before ++ line :: after) = lastIn? key (before ++ after) := by
  rw [lastIn?_append, lastIn?_cons, lastIn?_singleton_eq_none.mpr hidle, Option.or_none,
    lastIn?_append]

/-- What stands before a line for the key does not count. -/
theorem lastIn?_overruled (h : Sets line key value) (before before' after : List (List Char)) :
    lastIn? key (before ++ line :: after) = lastIn? key (before' ++ line :: after) := by
  rw [lastIn?_append, lastIn?_append, lastIn?_cons, lastIn?_singleton.mpr h]
  cases lastIn? key after <;> rfl

theorem lastIn?_exchange (hidle : ∀ value, ¬ Sets line key value) (other : List Char)
    (before after : List (List Char)) :
    lastIn? key (before ++ line :: other :: after) =
      lastIn? key (before ++ other :: line :: after) := by
  rw [lastIn?_idle hidle, List.append_cons before other after,
    List.append_cons before other (line :: after), lastIn?_idle hidle]

end Lines

theorem Edit.lastIn?_eq {ls ls' : List Line} (h : Edit ls ls')
    (hkey : key = identKey ∨ key = nameKey) :
    lastIn? key (ls.map Line.chars) = lastIn? key (ls'.map Line.chars) := by
  cases h with
  | @insert before after line hident hname =>
    have hidle : ∀ value, ¬ Sets line.chars key value := by
      rcases hkey with rfl | rfl
      · exact hident
      · exact hname
    simp only [List.map_append, List.map_cons, lastIn?_idle hidle]
  | @exchange before after line line' hkeys =>
    simp only [List.map_append, List.map_cons]
    -- At least one of the two lines is not for the key.
    by_cases hline : ∃ value, Sets line.chars key value
    · obtain ⟨value, hline⟩ := hline
      exact (lastIn?_exchange (fun value' => hkeys key value value' hline) ..).symm
    · exact lastIn?_exchange (not_exists.mp hline) ..
  | @revalue before between after line line' later key' value value' last hline hline' hlater =>
    simp only [List.map_append, List.map_cons]
    by_cases hsame : key = key'
    · subst hsame
      rw [← List.cons_append, ← List.cons_append, ← List.append_assoc, ← List.append_assoc]
      exact lastIn?_overruled hlater ..
    · have hidle {other : Line} {value : List Char} (h : Sets other.chars key' value) :
          ∀ value, ¬ Sets other.chars key value := fun _ h' => hsame (h'.key_eq h)
      rw [lastIn?_idle (hidle hline), lastIn?_idle (hidle hline')]
  | respell before after hline =>
    simp only [lastIn?, List.map_append, List.map_cons, List.filterMap_append,
      List.filterMap_cons, hline.field?_eq]

theorem lastIn?_eq_of_edits {ls ls' : List Line} (h : Relation.EqvGen Edit ls ls')
    (hkey : key = identKey ∨ key = nameKey) :
    lastIn? key (ls.map Line.chars) = lastIn? key (ls'.map Line.chars) := by
  induction h with
  | rel _ _ hedit => exact hedit.lastIn?_eq hkey
  | refl => rfl
  | symm _ _ _ ih => exact ih.symm
  | trans _ _ _ _ _ ih ih' => exact ih.trans ih'

theorem detect?_congr {text text' : String}
    (h : ∀ key ∈ [identKey, nameKey], value? key text.toList = value? key text'.toList) :
    detect? text = detect? text' := by
  have hident : value? identKey text.toList = value? identKey text'.toList := h _ (by simp)
  have hname : value? nameKey text.toList = value? nameKey text'.toList := h _ (by simp)
  rw [identKey] at hident
  rw [nameKey] at hname
  rw [detect?, detect?, hident, hname]

theorem value?_eq_iff {text text' : List Char} :
    value? key text = value? key text' ↔
      ∀ value, SetsLast (lines text) key value ↔ SetsLast (lines text') key value := by
  simp only [← value?_eq_some]
  exact Option.ext_iff

/-- Texts in which the last lines for `ID` and for `NAME` give the same values, if there are such
lines, are detected alike. So however the lines of a text are edited, the same is detected as long
as these values stay. A known value for `ID` decides, then the first word of the value for `NAME`
if it is known, and then any value for `ID` that is not empty stands for a Linux. -/
theorem last_values_decide :
    (∀ text text' : String, (∀ key ∈ [identKey, nameKey], ∀ value,
        SetsLast (lines text.toList) key value ↔ SetsLast (lines text'.toList) key value) →
      detect? text = detect? text') ∧
    ((∀ text, ∃ ls, textOf ls = text) ∧
      ∀ ls ls', Relation.EqvGen Edit ls ls' → detect? (textOf ls) = detect? (textOf ls')) ∧
    (∀ key text value, value? key text = some value ↔ SetsLast (lines text) key value) ∧
    (∀ key ls value,
      value? key (textOf ls).toList = some value ↔ SetsLast (ls.map Line.chars) key value) ∧
    ∀ text : String,
      let ident := (value? identKey text.toList).getD []
      let name := (value? nameKey text.toList).getD []
      let word := firstWord name
      FirstWord name word ∧
        (∀ os, Os.detect? (String.ofList ident) = some os → detect? text = some os) ∧
        (Os.detect? (String.ofList ident) = none →
          ∀ os, Os.detect? (String.ofList word) = some os → detect? text = some os) ∧
        (Os.detect? (String.ofList ident) = none → Os.detect? (String.ofList word) = none →
          detect? text = if ident = [] then none else some linux) := by
  refine ⟨fun text text' h => detect?_congr fun key hkey => value?_eq_iff.mpr (h key hkey),
    ⟨exists_textOf_eq, fun ls ls' h => detect?_congr fun key hkey => ?_⟩,
    fun key text value => value?_eq_some, fun key ls value => ?_, fun text => ?_⟩
  · rw [value?_textOf, value?_textOf, lastIn?_eq_of_edits h (by simpa using hkey)]
  · rw [value?_textOf, lastIn?_eq_some]
  · intro ident name word
    have hdetect : detect? text = (Os.detect? (String.ofList ident)).or
      ((Os.detect? (String.ofList word)).or (if ident.isEmpty then none else some linux)) := rfl
    refine ⟨firstWord_spec name, fun os hos => ?_, fun hident os hos => ?_, fun hident hword => ?_⟩
    · rw [hdetect, hos, Option.some_or]
    · rw [hdetect, hident, hos, Option.none_or, Option.some_or]
    · rw [hdetect, hident, hword, Option.none_or, Option.none_or]
      simp only [List.isEmpty_iff]

theorem not_sets {line key' value' : List Char} (h : field? line = some (key', value'))
    (hkey : key' ≠ key) (value : List Char) : ¬ Sets line key value :=
  fun h' => hkey ((field?_eq_some.mp h).key_eq h')

/-- A comment comes in, the two lines change places, and blanks come into one of them. The name
decides, as the identifier is not known. -/
theorem last_values_decide_fedora :
    let ident : Line := ⟨"ID=fork".toList, by decide⟩
    let name : Line := ⟨"NAME=\"Fedora Linux\"".toList, by decide⟩
    let comment : Line := ⟨"#ID=debian".toList, by decide⟩
    let padded : Line := ⟨" ID = fork".toList, by decide⟩
    detect? (textOf [ident, name]) = some fedora ∧
      detect? (textOf [name, comment, padded]) = detect? (textOf [ident, name]) := by
  intro ident name comment padded
  obtain ⟨-, ⟨-, hedits⟩, -, -, hsteps⟩ := last_values_decide
  obtain ⟨-, -, hname, -⟩ := hsteps (textOf [ident, name])
  have hident : field? ident.chars = some (identKey, "fork".toList) := by decide
  have hnamed : field? name.chars = some (nameKey, "Fedora Linux".toList) := by decide
  have hcomment : field? comment.chars = some ("#ID".toList, "debian".toList) := by decide
  have hother : ∀ key value value', Sets ident.chars key value → ¬ Sets name.chars key value' := by
    intro key value value' hsets
    obtain rfl : identKey = key := (field?_eq_some.mp hident).key_eq hsets
    exact not_sets hnamed (by decide) value'
  have hblank : isBlank ' ' = true := by decide
  have hblanks : Respelling ident padded :=
    @Respelling.blanks ident padded "ID".toList "fork".toList [' '] [' '] [' '] [] (by decide) rfl
      (by simp [hblank]) rfl
  have hexchange : Edit [ident, name] [name, ident] := .exchange [] [] hother
  have hrespell : Edit [name, ident] [name, padded] := .respell [name] [] hblanks
  have hinsert : Edit [name, padded] [name, comment, padded] :=
    .insert [name] [padded] (not_sets hcomment (by decide)) (not_sets hcomment (by decide))
  refine ⟨hname (by decide +kernel) fedora (by decide +kernel), (hedits _ _ ?_).symm⟩
  exact .trans _ _ _ (.rel _ _ hexchange) (.trans _ _ _ (.rel _ _ hrespell) (.rel _ _ hinsert))

example : detect? "NAME=\"Fedora Linux\"\r\nID=ubuntu\n#ID=debian\n ID = 'none' \n" =
    some fedora := by
  decide +kernel

end Testbed.Os.Release
