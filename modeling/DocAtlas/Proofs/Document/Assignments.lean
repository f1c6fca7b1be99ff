-- SUMMARY: Settings that are written into front matter are read back, whatever other lines stand between them.
import DocAtlas.Proofs.Document.FrontMatter

/-! # Written settings

A setting is written as a line of its own, with its value between double quotes.
Reading such lines gives each key the value of its last setting, whatever the
characters of the value. The lines that set nothing are listed by `IsIdle`: they
may stand anywhere between the settings and change nothing. -/

namespace DocAtlas.FrontMatter

open Text

/-! ## Settings and other lines -/

/-- The keys that are read. -/
inductive Key where
  | id
  | slug
  | title
  deriving DecidableEq

def Key.text : Key → List Char
  | .id => "id".toList
  | .slug => "slug".toList
  | .title => "title".toList

/-- What is read under a key. -/
def get (front : FrontMatter) : Key → Option String
  | .id => front.id
  | .slug => front.slug
  | .title => front.title

/-- A value for a key, not empty and without a newline. -/
structure Setting where
  key : Key
  value : List Char
  value_ne_nil : value ≠ []
  value_line : '\n' ∉ value

/-- The line of a setting, its newline left out. -/
def Setting.text (s : Setting) : List Char := s.key.text ++ ':' :: ' ' :: '"' :: s.value ++ ['"']

/-- The value that the last of the settings for a key gives to it. -/
def lastValue (settings : List Setting) (key : Key) : Option String :=
  (settings.filter (·.key = key)).getLast?.map fun s => String.ofList s.value

/-- A line, its newline left out, that sets none of the keys. -/
inductive IsIdle : List Char → Prop
  | blank {text} : (∀ c ∈ text, isBlank c = true) → IsIdle text
  | comment {indent text} : (∀ c ∈ indent, isBlank c = true) → IsIdle (indent ++ '#' :: text)
  | noColon {text} : ':' ∉ text → isFence text = false → IsIdle text
  | otherKey {key value} : ':' ∉ key → (∀ k : Key, trim key ≠ k.text) →
      IsIdle (key ++ ':' :: value)
  | noValue {key before value after} : ':' ∉ key → (∀ c ∈ before, isBlank c = true) →
      value ∈ [[], ['"', '"'], ['\'', '\'']] → (∀ c ∈ after, isBlank c = true) →
      IsIdle (key ++ ':' :: (before ++ value ++ after))

/-- A line of front matter. -/
inductive Entry where
  | setting (s : Setting)
  | idle (text : List Char) (text_line : '\n' ∉ text) (isIdle : IsIdle text)

namespace Entry

def text : Entry → List Char
  | setting s => s.text
  | idle text _ _ => text

def line (e : Entry) : List Char := e.text ++ ['\n']

def setting? : Entry → Option Setting
  | setting s => some s
  | idle _ _ _ => none

end Entry

/-! ## Reading a line -/

theorem assignment?_colon {key : List Char} (hkey : ':' ∉ key) (value : List Char) :
    assignment? (key ++ ':' :: value)
      = if (trimStart key).head? = some '#' ∨ unquote (trim value) = [] then none
        else some (trim key, unquote (trim value)) := by
  have htrim : trim (key ++ ':' :: value) = trimStart key ++ ':' :: trimEnd value :=
    trim_append_cons (by decide) key value
  have hcolon : ':' ∉ trimStart key := fun h => hkey ((List.dropWhile_suffix isBlank).subset h)
  have hsplit : splitOnce ':' (trim (key ++ ':' :: value)) = some (trimStart key, trimEnd value) :=
    splitOnce_eq_some_iff.2 ⟨htrim, hcolon⟩
  have hhead : (trim (key ++ ':' :: value)).head? = some '#' ↔ (trimStart key).head? = some '#' := by
    rw [htrim]
    cases trimStart key <;> simp
  simp only [assignment?, hsplit, hhead, trim_trimStart, trim_trimEnd]
  split_ifs <;> simp_all

theorem isBlank_newline : ∀ c ∈ ['\n'], isBlank c = true := List.forall_mem_singleton.2 rfl

theorem assignment?_newline (text : List Char) : assignment? (text ++ ['\n']) = assignment? text := by
  have htrim : trim (text ++ ['\n']) = trim text :=
    @trim_between [] ['\n'] text (by simp) isBlank_newline
  simp only [assignment?, htrim]

theorem unquote_quoted (value : List Char) : unquote ('"' :: value ++ ['"']) = value := by
  have hlead : dropLead? ['"'] ('"' :: value ++ ['"']) = some (value ++ ['"']) :=
    dropLead?_eq_some_iff.2 rfl
  have htail : dropTail? ['"'] (value ++ ['"']) = some value := dropTail?_eq_some_iff.2 rfl
  rw [unquote, hlead, Option.bind_some, htail]

theorem Setting.assignment?_text (s : Setting) : assignment? s.text = some (s.key.text, s.value) := by
  have hkey : ':' ∉ s.key.text ∧ (trimStart s.key.text).head? ≠ some '#'
      ∧ trim s.key.text = s.key.text := by
    cases s.key <;> decide
  obtain ⟨hcolon, hhash, htrim⟩ := hkey
  have hvalue : trim (' ' :: '"' :: s.value ++ ['"']) = '"' :: s.value ++ ['"'] := by
    have hopen := trim_append_cons (c := '"') (by decide) [' '] (s.value ++ ['"'])
    have hclose := trimEnd_append_cons (c := '"') (by decide) s.value []
    rw [hclose] at hopen
    exact hopen
  have htext : s.text = s.key.text ++ ':' :: (' ' :: '"' :: s.value ++ ['"']) := by simp [text]
  rw [htext, assignment?_colon hcolon, hvalue, unquote_quoted, htrim, if_neg]
  simp [hhash, s.value_ne_nil]

/-- What a line that is read next makes of the keys so far. -/
def record (front : FrontMatter) (line : List Char) : FrontMatter :=
  match assignment? line with
  | some (key, value) => front.assign key value
  | none => front

theorem ofLines_eq_foldl (block : List (List Char)) : ofLines block = block.foldl record {} := rfl

theorem get_assign (front : FrontMatter) (key key' : Key) (value : List Char) :
    (front.assign key.text value).get key'
      = if key = key' then some (String.ofList value) else front.get key' := by
  cases key <;> cases key' <;> rfl

theorem assign_of_ne {key : List Char} (h : ∀ k : Key, key ≠ k.text) (front : FrontMatter)
    (value : List Char) : front.assign key value = front := by
  have hid : key ≠ "id".toList := h .id
  have hslug : key ≠ "slug".toList := h .slug
  have htitle : key ≠ "title".toList := h .title
  rw [assign, if_neg hid, if_neg hslug, if_neg htitle]

/-- A line that assigns nothing, or something to another key, changes no key. -/
theorem IsIdle.record_text {text : List Char} (h : IsIdle text) (front : FrontMatter) :
    front.record text = front := by
  unfold record
  cases h with
  | blank hblank =>
    simp [assignment?, trim_of_blank hblank, splitOnce]
  | @comment indent text hindent =>
    have hhead : (trim (indent ++ '#' :: text)).head? = some '#' := by
      rw [trim_append_cons (by decide), trimStart_of_blank hindent]
      rfl
    simp [assignment?, hhead]
  | noColon hcolon _ =>
    have hsplit : splitOnce ':' (trim text) = none :=
      splitOnce_eq_none_iff.2 fun h => hcolon (mem_of_mem_trim h)
    simp [assignment?, hsplit]
  | otherKey hcolon hkey =>
    rw [assignment?_colon hcolon]
    split_ifs
    · rfl
    · exact assign_of_ne hkey front _
  | @noValue key before value after hcolon hbefore hvalue hafter =>
    have hempty : unquote (trim (before ++ value ++ after)) = [] := by
      rw [trim_between hbefore hafter]
      simp only [List.mem_cons, List.not_mem_nil, or_false] at hvalue
      rcases hvalue with rfl | rfl | rfl <;> decide
    rw [assignment?_colon hcolon, if_pos (.inr hempty)]

theorem Entry.record_line (e : Entry) (front : FrontMatter) :
    front.record e.line
      = match e.setting? with
        | some s => front.assign s.key.text s.value
        | none => front := by
  have hline : front.record e.line = front.record e.text := by
    simp only [record, line, assignment?_newline]
  rw [hline]
  cases e with
  | setting s => simp only [record, text, s.assignment?_text, setting?]
  | idle text _ hidle => exact hidle.record_text front

/-! ## Reading the block -/

theorem lastValue_concat (settings : List Setting) (s : Setting) (key : Key) :
    lastValue (settings ++ [s]) key
      = if s.key = key then some (String.ofList s.value) else lastValue settings key := by
  by_cases hkey : s.key = key <;> simp [lastValue, hkey]

/-- The keys of a block of entries have the values of their last settings. -/
theorem get_ofLines (entries : List Entry) (key : Key) :
    (ofLines (entries.map Entry.line)).get key = lastValue (entries.filterMap Entry.setting?) key := by
  rw [ofLines_eq_foldl]
  induction entries using List.reverseRecOn with
  | nil => cases key <;> rfl
  | append_singleton entries e ih =>
    rw [List.map_append, List.foldl_append, List.filterMap_append]
    simp only [List.map_cons, List.map_nil, List.foldl_cons, List.foldl_nil, e.record_line]
    cases e with
    | setting s =>
      have hone : [Entry.setting s].filterMap Entry.setting? = [s] := rfl
      simp only [Entry.setting?, get_assign, ih, hone, lastValue_concat]
    | idle text hline hidle =>
      have hnone : [Entry.idle text hline hidle].filterMap Entry.setting? = [] := rfl
      rw [hnone, List.append_nil]
      exact ih

theorem isFence_eq_false_of_mem {c : Char} {line : List Char} (hmem : c ∈ line)
    (hblank : isBlank c = false) (hdash : c ≠ '-') : isFence line = false := by
  obtain ⟨front, rest, rfl⟩ := List.append_of_mem hmem
  rw [isFence, trimEnd_append_cons hblank, decide_eq_false_iff_not]
  intro h
  have hc : c ∈ "---".toList := h ▸ List.mem_append_right front List.mem_cons_self
  simp [hdash] at hc

namespace Entry

theorem isWholeLine_line (e : Entry) : IsWholeLine e.line := by
  refine ⟨e.text, ?_, rfl⟩
  cases e with
  | setting s =>
    have hkey : '\n' ∉ s.key.text := by cases s.key <;> decide
    simp [text, Setting.text, hkey, s.value_line]
  | idle text hline _ => exact hline

theorem isFence_line (e : Entry) : isFence e.line = false := by
  have hline : isFence e.line = isFence e.text := by
    rw [isFence, line, trimEnd_append_blank isBlank_newline, isFence]
  rw [hline]
  cases e with
  | setting s =>
    apply isFence_eq_false_of_mem (c := ':') _ (by decide) (by decide)
    simp [text, Setting.text]
  | idle text _ hidle =>
    change isFence text = false
    cases hidle with
    | blank hblank =>
      rw [isFence, trimEnd_of_blank hblank]
      decide
    | comment => exact isFence_eq_false_of_mem (c := '#') (by simp) (by decide) (by decide)
    | noColon _ hfence => exact hfence
    | otherKey | noValue => exact isFence_eq_false_of_mem (c := ':') (by simp) (by decide) (by decide)

end Entry

/-! ## Sources -/

/-- A source that opens with entries between two fences. -/
structure Written where
  blanks : List Char
  opening : List Char
  entries : List Entry
  fence : List Char
  body : List Char
  isBlank_blanks : ∀ c ∈ blanks, isBlank c = true
  opening_line : '\n' ∉ opening
  isFence_opening : isFence opening = true
  /-- The second fence may be the last line, without a newline. -/
  fence_line : IsWholeLine fence ∨ '\n' ∉ fence ∧ body = []
  isFence_fence : isFence fence = true

namespace Written

def source (w : Written) : List Char :=
  w.blanks ++ (w.opening ++ '\n' :: ((w.entries.map Entry.line).flatten ++ w.fence ++ w.body))

/-- The settings in the order of their lines. -/
def settings (w : Written) : List Setting := w.entries.filterMap Entry.setting?

theorem takeWhile_source (w : Written) : w.source.takeWhile isBlank = w.blanks := by
  have htrim : trimEnd w.opening = "---".toList := of_decide_eq_true w.isFence_opening
  have hprefix : trimEnd w.opening <+: w.opening := List.rdropWhile_prefix isBlank w.opening
  obtain ⟨rest, hopening⟩ := htrim ▸ hprefix
  have hdash : isBlank '-' = false := by decide
  rw [source, List.takeWhile_append_of_pos w.isBlank_blanks, ← hopening]
  simp [hdash]

/-- The entries are the block of the source. -/
def layout (w : Written) : Layout w.source where
  blanks := w.blanks
  opening := w.opening
  block := w.entries.map Entry.line
  fence := w.fence
  body := w.body
  source_eq := rfl
  blanks_eq := w.takeWhile_source.symm
  opening_line := w.opening_line
  isFence_opening := w.isFence_opening
  closes := {
    block_line := by simpa using fun e _ => e.isWholeLine_line
    block_plain := by simpa using fun e _ => e.isFence_line
    fence_line := w.fence_line
    isFence_fence := w.isFence_fence }

/-- Of a source with written settings, the body is read as it is, and each key has the value of its
last setting. -/
theorem split_source (w : Written) :
    (split w.source).2 = w.body ∧ ∀ key, (split w.source).1.get key = lastValue w.settings key := by
  rw [w.layout.split_eq]
  exact ⟨rfl, get_ofLines w.entries⟩

/-- Two settings of one key, with a comment and an empty value behind them. -/
def sample : Written where
  blanks := ['\n']
  opening := "--- ".toList
  entries := [
    .setting ⟨.id, "a".toList, by decide, by decide⟩,
    .setting ⟨.id, " x: #\"---' ".toList, by decide, by decide⟩,
    .idle ([' '] ++ '#' :: " id: b".toList) (by decide)
      (.comment (List.forall_mem_singleton.2 rfl)),
    .idle ("id".toList ++ ':' :: ([] ++ ['"', '"'] ++ [])) (by decide)
      (.noValue (by decide) (List.forall_mem_nil _) (by decide) (List.forall_mem_nil _))]
  fence := "---".toList
  body := []
  isBlank_blanks := isBlank_newline
  opening_line := by decide
  isFence_opening := by decide
  fence_line := .inr ⟨by decide, rfl⟩
  isFence_fence := by decide

theorem split_source_sample :
    sample.source
        = "\n--- \nid: \"a\"\nid: \" x: #\"---' \"\n # id: b\nid:\"\"\n---".toList ∧
      (split sample.source).2 = [] ∧ (split sample.source).1.get .id = some " x: #\"---' " ∧
      (split sample.source).1.get .title = none := by
  obtain ⟨hbody, hkeys⟩ := sample.split_source
  refine ⟨by decide, hbody, ?_, ?_⟩
  · rw [hkeys]
    decide
  · rw [hkeys]
    decide

end Written

end DocAtlas.FrontMatter
