-- SUMMARY: The grammar of indented JSON text: printing keeps to it, it can be read in one way only, and without blanks it is the compact text.
import DocAtlas.Json.Printer
import Mathlib.Data.List.Basic

/-! # The layout of JSON text

The rules of the indented layout, as relations between a text, what it starts
with and the text after that. Every printed value keeps to them. A text starts
with one value at most, so that two values with one text are equal: a string
ends at its first bare quote, and what follows an item tells whether another one
comes. Without its blanks and newlines between the strings, the indented text is
the compact one. -/

namespace DocAtlas.Json

/-! ## Grammar -/

/-- The characters that are written as a backslash and one more character. -/
def shortEscapes : List (Char × Char) :=
  [('"', '"'), ('\\', '\\'), ('\n', 'n'), ('\r', 'r'), ('\t', 't'), ('\x08', 'b'), ('\x0c', 'f')]

def hexDigits : List Char := "0123456789abcdef".toList

/-- The text starts with a character of a string, as it is written between the quotes. -/
inductive StartsWithChar : List Char → Char → List Char → Prop
  | short {c letter r} : (c, letter) ∈ shortEscapes → StartsWithChar ('\\' :: letter :: r) c r
  /-- Any other character below U+0020 is written by its code, which has two digits at most. -/
  | code {c h l r} {hi lo : Nat} : c ∉ shortEscapes.map Prod.fst → c.toNat < 32 →
      c.toNat = 16 * hi + lo → hexDigits[hi]? = some h → hexDigits[lo]? = some l →
      StartsWithChar ('\\' :: 'u' :: '0' :: '0' :: h :: l :: r) c r
  | plain {c r} : c ∉ shortEscapes.map Prod.fst → 32 ≤ c.toNat → StartsWithChar (c :: r) c r

/-- The text starts with the characters of a string and its closing quote. -/
inductive StartsWithBody : List Char → List Char → List Char → Prop
  | close {r} : StartsWithBody ('"' :: r) [] r
  | char {t c t' cs r} : StartsWithChar t c t' → StartsWithBody t' cs r →
      StartsWithBody t (c :: cs) r

/-- The text starts with a new line, indented by two blanks for each level of depth. -/
def StartsWithLine (depth : Nat) (t r : List Char) : Prop :=
  t = '\n' :: (List.replicate (2 * depth) ' ' ++ r)

mutual

/-- The text starts with a value that stands at the given depth. -/
inductive StartsWithValue : Nat → List Char → Json → List Char → Prop
  | null {d r} : StartsWithValue d ("null".toList ++ r) .null r
  | true {d r} : StartsWithValue d ("true".toList ++ r) (.bool true) r
  | false {d r} : StartsWithValue d ("false".toList ++ r) (.bool false) r
  | str {d t s r} : StartsWithBody t s.toList r → StartsWithValue d ('"' :: t) (.str s) r
  | noItems {d r} : StartsWithValue d ('[' :: ']' :: r) (.arr []) r
  | items {d t vs t' r} : StartsWithItems (d + 1) t vs t' → StartsWithLine d t' (']' :: r) →
      StartsWithValue d ('[' :: t) (.arr vs) r
  | noFields {d r} : StartsWithValue d ('\x7b' :: '\x7d' :: r) (.obj []) r
  | fields {d t fs t' r} : StartsWithFields (d + 1) t fs t' → StartsWithLine d t' ('\x7d' :: r) →
      StartsWithValue d ('\x7b' :: t) (.obj fs) r

/-- The text starts with one or more items, each on a line of its own. -/
inductive StartsWithItems : Nat → List Char → List Json → List Char → Prop
  | last {d t t' v r} : StartsWithLine d t t' → StartsWithValue d t' v r →
      StartsWithItems d t [v] r
  | more {d t t' v t'' vs r} : StartsWithLine d t t' → StartsWithValue d t' v (',' :: t'') →
      StartsWithItems d t'' vs r → StartsWithItems d t (v :: vs) r

/-- The text starts with one or more fields, each on a line of its own. -/
inductive StartsWithFields : Nat → List Char → List (String × Json) → List Char → Prop
  | last {d t t' k t'' v r} : StartsWithLine d t ('"' :: t') →
      StartsWithBody t' k.toList (':' :: ' ' :: t'') → StartsWithValue d t'' v r →
      StartsWithFields d t [(k, v)] r
  | more {d t t' k t'' v t''' fs r} : StartsWithLine d t ('"' :: t') →
      StartsWithBody t' k.toList (':' :: ' ' :: t'') → StartsWithValue d t'' v (',' :: t''') →
      StartsWithFields d t''' fs r → StartsWithFields d t ((k, v) :: fs) r

end

/-! ## Printing keeps to the grammar -/

theorem hexDigits_getElem? : ∀ n < 16, hexDigits[n]? = some (hexDigit n) := by decide

theorem startsWithChar_escapeChar (c : Char) (r : List Char) :
    StartsWithChar (escapeChar c ++ r) c r := by
  by_cases hc : c ∈ shortEscapes.map Prod.fst
  · have key {c letter : Char} (h : (c, letter) ∈ shortEscapes) :
        StartsWithChar (['\\', letter] ++ r) c r := .short h
    simp only [shortEscapes, List.map_cons, List.map_nil, List.mem_cons, List.not_mem_nil,
      or_false] at hc
    rcases hc with rfl | rfl | rfl | rfl | rfl | rfl | rfl <;> exact key (by decide)
  · have hne := hc
    simp only [shortEscapes, List.map_cons, List.map_nil, List.mem_cons, List.not_mem_nil,
      or_false, not_or] at hne
    obtain ⟨quote, backslash, newline, carriage, tab, hb, hf⟩ := hne
    have backspace : c.toNat ≠ 8 := fun h => hb (Char.toNat_inj.1 h)
    have formFeed : c.toNat ≠ 12 := fun h => hf (Char.toNat_inj.1 h)
    rw [escapeChar, if_neg quote, if_neg backslash, if_neg newline, if_neg carriage, if_neg tab,
      if_neg backspace, if_neg formFeed]
    split
    next hlt =>
      have hhi := hexDigits_getElem? (c.toNat / 16) (by omega)
      have hlo := hexDigits_getElem? (c.toNat % 16) (by omega)
      exact .code hc hlt (Nat.div_add_mod ..).symm hhi hlo
    next hge => exact .plain hc (by omega)

theorem startsWithBody_flatMap (cs r : List Char) :
    StartsWithBody (cs.flatMap escapeChar ++ '"' :: r) cs r := by
  induction cs with
  | nil => exact .close
  | cons c cs ih =>
    rw [List.flatMap_cons, List.append_assoc]
    exact .char (startsWithChar_escapeChar c _) ih

theorem startsWithLine_newline (d : Nat) (r : List Char) : StartsWithLine d (newline d ++ r) r := rfl

mutual

theorem startsWithValue_prettyChars (d : Nat) (v : Json) (r : List Char) :
    StartsWithValue d (prettyChars d v ++ r) v r := by
  match v with
  | .null => rw [prettyChars]; exact .null
  | .bool true => rw [prettyChars]; exact .true
  | .bool false => rw [prettyChars]; exact .false
  | .str s =>
    simp only [prettyChars, quote, List.cons_append, List.append_assoc, List.nil_append]
    exact .str (startsWithBody_flatMap s.toList r)
  | .arr [] => rw [prettyChars]; exact .noItems
  | .arr (v :: rest) =>
    simp only [prettyChars, List.cons_append, List.append_assoc, List.nil_append]
    exact .items (startsWithItems_prettyItems (d + 1) (v :: rest) nofun _)
      (startsWithLine_newline d _)
  | .obj [] => rw [prettyChars]; exact .noFields
  | .obj (f :: rest) =>
    simp only [prettyChars, List.cons_append, List.append_assoc, List.nil_append]
    exact .fields (startsWithFields_prettyFields (d + 1) (f :: rest) nofun _)
      (startsWithLine_newline d _)

theorem startsWithItems_prettyItems (d : Nat) (vs : List Json) (hne : vs ≠ []) (r : List Char) :
    StartsWithItems d (prettyItems d vs ++ r) vs r := by
  match vs with
  | [] => exact absurd rfl hne
  | [v] =>
    simp only [prettyItems, List.append_assoc]
    exact .last (startsWithLine_newline d _) (startsWithValue_prettyChars d v r)
  | v :: w :: rest =>
    simp only [prettyItems, List.cons_append, List.append_assoc]
    exact .more (startsWithLine_newline d _) (startsWithValue_prettyChars d v _)
      (startsWithItems_prettyItems d (w :: rest) nofun r)

theorem startsWithFields_prettyFields (d : Nat) (fs : List (String × Json)) (hne : fs ≠ [])
    (r : List Char) : StartsWithFields d (prettyFields d fs ++ r) fs r := by
  match fs with
  | [] => exact absurd rfl hne
  | [(k, v)] =>
    simp only [prettyFields, quote, List.cons_append, List.append_assoc, List.nil_append]
    exact .last (startsWithLine_newline d _) (startsWithBody_flatMap k.toList _)
      (startsWithValue_prettyChars d v r)
  | (k, v) :: f :: rest =>
    simp only [prettyFields, quote, List.cons_append, List.append_assoc, List.nil_append]
    exact .more (startsWithLine_newline d _) (startsWithBody_flatMap k.toList _)
      (startsWithValue_prettyChars d v _) (startsWithFields_prettyFields d (f :: rest) nofun r)

end

theorem startsWithValue_pretty (v : Json) : StartsWithValue 0 v.pretty.toList v [] := by
  have h := startsWithValue_prettyChars 0 v []
  rw [List.append_nil] at h
  rw [pretty, String.toList_ofList]
  exact h

/-! ## One reading -/

theorem shortEscapes_snd_inj :
    ∀ e ∈ shortEscapes, ∀ e' ∈ shortEscapes, e.2 = e'.2 → e.1 = e'.1 := by
  decide

theorem u_not_mem_shortEscapes : ∀ e ∈ shortEscapes, e.2 ≠ 'u' := by decide

theorem hexDigits_inj {i j : Nat} {c : Char} (hi : hexDigits[i]? = some c)
    (hj : hexDigits[j]? = some c) : i = j :=
  (List.getElem?_inj (List.getElem?_eq_some_iff.1 hi).1 (by decide)).1 (hi.trans hj.symm)

theorem backslash_escaped : '\\' ∈ shortEscapes.map Prod.fst := by decide

theorem StartsWithChar.unique {t r r' : List Char} {c c' : Char} (h : StartsWithChar t c r)
    (h' : StartsWithChar t c' r') : c = c' ∧ r = r' := by
  cases h with
  | short hc =>
    cases h' with
    | short hc' => exact ⟨shortEscapes_snd_inj _ hc _ hc' rfl, rfl⟩
    | code => exact absurd rfl (u_not_mem_shortEscapes _ hc)
    | plain hc' => exact absurd backslash_escaped hc'
  | code _ _ hn hhi hlo =>
    cases h' with
    | short hc' => exact absurd rfl (u_not_mem_shortEscapes _ hc')
    | code _ _ hn' hhi' hlo' =>
      rw [hexDigits_inj hhi hhi', hexDigits_inj hlo hlo', ← hn'] at hn
      exact ⟨Char.toNat_inj.1 hn, rfl⟩
    | plain hc' => exact absurd backslash_escaped hc'
  | plain hc =>
    cases h' with
    | short => exact absurd backslash_escaped hc
    | code => exact absurd backslash_escaped hc
    | plain => exact ⟨rfl, rfl⟩

theorem not_startsWithChar_quote {t r : List Char} {c : Char} :
    ¬ StartsWithChar ('"' :: t) c r := by
  intro h
  cases h with
  | plain hc => exact hc (by decide)

theorem StartsWithBody.unique {t cs r cs' r' : List Char} (h : StartsWithBody t cs r)
    (h' : StartsWithBody t cs' r') : cs = cs' ∧ r = r' := by
  induction h generalizing cs' r' with
  | close =>
    cases h' with
    | close => exact ⟨rfl, rfl⟩
    | char hc => exact absurd hc not_startsWithChar_quote
  | char hc _ ih =>
    cases h' with
    | close => exact absurd hc not_startsWithChar_quote
    | char hc' hbody =>
      obtain ⟨rfl, rfl⟩ := hc.unique hc'
      obtain ⟨rfl, rfl⟩ := ih hbody
      exact ⟨rfl, rfl⟩

theorem StartsWithLine.unique {d : Nat} {t r r' : List Char} (h : StartsWithLine d t r)
    (h' : StartsWithLine d t r') : r = r' := by
  rw [StartsWithLine] at h h'
  simpa using h.symm.trans h'

/-- The key of a field, at the start of its line. -/
theorem StartsWithLine.unique_field {d : Nat} {t u u' r r' : List Char} {k k' : String}
    (h : StartsWithLine d t ('"' :: u)) (hk : StartsWithBody u k.toList (':' :: ' ' :: r))
    (h' : StartsWithLine d t ('"' :: u')) (hk' : StartsWithBody u' k'.toList (':' :: ' ' :: r')) :
    k = k' ∧ r = r' := by
  obtain rfl := (List.cons.inj (h.unique h')).2
  obtain ⟨e, er⟩ := hk.unique hk'
  exact ⟨String.toList_inj.1 e, by simpa using er⟩

theorem StartsWithLine.ne_cons {d : Nat} {t r : List Char} {c : Char} (hc : c ≠ '\n') :
    ¬ StartsWithLine d (c :: t) r := by
  intro h
  exact hc (List.cons.inj h).1

theorem not_startsWithItems_bracket {d : Nat} {t r : List Char} {vs : List Json} :
    ¬ StartsWithItems d (']' :: t) vs r := by
  intro h
  cases h with
  | last hline => exact StartsWithLine.ne_cons (by decide) hline
  | more hline => exact StartsWithLine.ne_cons (by decide) hline

theorem not_startsWithFields_brace {d : Nat} {t r : List Char} {fs : List (String × Json)} :
    ¬ StartsWithFields d ('\x7d' :: t) fs r := by
  intro h
  cases h with
  | last hline => exact StartsWithLine.ne_cons (by decide) hline
  | more hline => exact StartsWithLine.ne_cons (by decide) hline

mutual

theorem StartsWithValue.unique {d t v r w r'} (h : StartsWithValue d t v r)
    (h' : StartsWithValue d t w r') : v = w ∧ r = r' := by
  cases h with
  | null => cases h'; exact ⟨rfl, rfl⟩
  | true => cases h'; exact ⟨rfl, rfl⟩
  | false => cases h'; exact ⟨rfl, rfl⟩
  | str h =>
    cases h' with
    | str h' =>
      obtain ⟨e, rfl⟩ := h.unique h'
      exact ⟨by rw [String.toList_inj.1 e], rfl⟩
  | noItems =>
    cases h' with
    | noItems => exact ⟨rfl, rfl⟩
    | items h' => exact absurd h' not_startsWithItems_bracket
  | items h hline =>
    cases h' with
    | noItems => exact absurd h not_startsWithItems_bracket
    | items h' hline' =>
      obtain ⟨rfl, rfl⟩ := h.unique h' hline hline'
      exact ⟨rfl, (List.cons.inj (hline.unique hline')).2⟩
  | noFields =>
    cases h' with
    | noFields => exact ⟨rfl, rfl⟩
    | fields h' => exact absurd h' not_startsWithFields_brace
  | fields h hline =>
    cases h' with
    | noFields => exact absurd h not_startsWithFields_brace
    | fields h' hline' =>
      obtain ⟨rfl, rfl⟩ := h.unique h' hline hline'
      exact ⟨rfl, (List.cons.inj (hline.unique hline')).2⟩

theorem StartsWithItems.unique {d t vs r ws r' e s s'} (h : StartsWithItems d t vs r)
    (h' : StartsWithItems d t ws r') (hline : StartsWithLine e r s)
    (hline' : StartsWithLine e r' s') : vs = ws ∧ r = r' := by
  cases h with
  | last hl hv =>
    cases h' with
    | last hl' hv' =>
      obtain rfl := hl.unique hl'
      obtain ⟨rfl, rfl⟩ := hv.unique hv'
      exact ⟨rfl, rfl⟩
    | more hl' hv' =>
      obtain rfl := hl.unique hl'
      obtain ⟨-, rfl⟩ := hv.unique hv'
      exact absurd hline (StartsWithLine.ne_cons (by decide))
  | more hl hv hrest =>
    cases h' with
    | last hl' hv' =>
      obtain rfl := hl.unique hl'
      obtain ⟨-, rfl⟩ := hv.unique hv'
      exact absurd hline' (StartsWithLine.ne_cons (by decide))
    | more hl' hv' hrest' =>
      obtain rfl := hl.unique hl'
      obtain ⟨rfl, e⟩ := hv.unique hv'
      obtain rfl := (List.cons.inj e).2
      obtain ⟨rfl, rfl⟩ := hrest.unique hrest' hline hline'
      exact ⟨rfl, rfl⟩

theorem StartsWithFields.unique {d t fs r gs r' e s s'} (h : StartsWithFields d t fs r)
    (h' : StartsWithFields d t gs r') (hline : StartsWithLine e r s)
    (hline' : StartsWithLine e r' s') : fs = gs ∧ r = r' := by
  cases h with
  | last hl hk hv =>
    cases h' with
    | last hl' hk' hv' =>
      obtain ⟨rfl, rfl⟩ := StartsWithLine.unique_field hl hk hl' hk'
      obtain ⟨rfl, rfl⟩ := hv.unique hv'
      exact ⟨rfl, rfl⟩
    | more hl' hk' hv' =>
      obtain ⟨rfl, rfl⟩ := StartsWithLine.unique_field hl hk hl' hk'
      obtain ⟨-, rfl⟩ := hv.unique hv'
      exact absurd hline (StartsWithLine.ne_cons (by decide))
  | more hl hk hv hrest =>
    cases h' with
    | last hl' hk' hv' =>
      obtain ⟨rfl, rfl⟩ := StartsWithLine.unique_field hl hk hl' hk'
      obtain ⟨-, rfl⟩ := hv.unique hv'
      exact absurd hline' (StartsWithLine.ne_cons (by decide))
    | more hl' hk' hv' hrest' =>
      obtain ⟨rfl, rfl⟩ := StartsWithLine.unique_field hl hk hl' hk'
      obtain ⟨rfl, e⟩ := hv.unique hv'
      obtain rfl := (List.cons.inj e).2
      obtain ⟨rfl, rfl⟩ := hrest.unique hrest' hline hline'
      exact ⟨rfl, rfl⟩

end

theorem pretty_injective : Function.Injective pretty := by
  intro v w h
  have hv := startsWithValue_pretty v
  rw [h] at hv
  exact (hv.unique (startsWithValue_pretty w)).1

/-! ## Text without its layout -/

/-- Where in a text a character stands. -/
inductive Position where
  | between
  | inString
  /-- In a string, behind a backslash. -/
  | escaped

/-- The position behind a character. -/
def Position.next : Position → Char → Position
  | between, c => if c = '"' then inString else between
  | inString, c => if c = '\\' then escaped else if c = '"' then between else inString
  | escaped, _ => inString

/-- The text without the blanks and the newlines between its strings. -/
def squeeze : Position → List Char → List Char
  | _, [] => []
  | .between, c :: t =>
    if c = ' ' ∨ c = '\n' then squeeze .between t else c :: squeeze (Position.next .between c) t
  | p, c :: t => c :: squeeze (p.next c) t

theorem squeeze_between {c : Char} (hblank : ¬ (c = ' ' ∨ c = '\n')) (hquote : c ≠ '"')
    (t : List Char) : squeeze .between (c :: t) = c :: squeeze .between t := by
  rw [squeeze, if_neg hblank, Position.next, if_neg hquote]

theorem squeeze_inString {c : Char} (hescape : c ≠ '\\') (hquote : c ≠ '"') (t : List Char) :
    squeeze .inString (c :: t) = c :: squeeze .inString t := by
  rw [squeeze, Position.next, if_neg hescape, if_neg hquote]
  exact nofun

theorem squeeze_escaped (c : Char) (t : List Char) :
    squeeze .inString ('\\' :: c :: t) = '\\' :: c :: squeeze .inString t := rfl

theorem squeeze_newline (d : Nat) (r : List Char) :
    squeeze .between (newline d ++ r) = squeeze .between r := by
  have hblanks (n : Nat) : squeeze .between (List.replicate n ' ' ++ r) = squeeze .between r := by
    induction n with
    | zero => rfl
    | succ n ih => exact ih
  exact hblanks (2 * d)

theorem hexDigit_ne : ∀ n < 16, hexDigit n ≠ '\\' ∧ hexDigit n ≠ '"' := by decide

theorem squeeze_escapeChar (c : Char) (r : List Char) :
    squeeze .inString (escapeChar c ++ r) = escapeChar c ++ squeeze .inString r := by
  unfold escapeChar
  split_ifs with hquote hescape _ _ _ _ _ hcode
  any_goals rfl
  · have hhi := hexDigit_ne (c.toNat / 16) (by omega)
    have hlo := hexDigit_ne (c.toNat % 16) (by omega)
    simp only [List.cons_append, List.nil_append, squeeze_escaped]
    rw [squeeze_inString (by decide) (by decide), squeeze_inString (by decide) (by decide),
      squeeze_inString hhi.1 hhi.2, squeeze_inString hlo.1 hlo.2]
  · exact squeeze_inString hescape hquote r

theorem squeeze_quote (s : String) (r : List Char) :
    squeeze .between (quote s ++ r) = quote s ++ squeeze .between r := by
  have hbody (cs : List Char) : squeeze .inString (cs.flatMap escapeChar ++ '"' :: r)
      = cs.flatMap escapeChar ++ '"' :: squeeze .between r := by
    induction cs with
    | nil => rfl
    | cons c cs ih =>
      rw [List.flatMap_cons, List.append_assoc, squeeze_escapeChar, ih, List.append_assoc]
  simp only [quote, List.cons_append, List.append_assoc, List.nil_append]
  exact congrArg _ (hbody s.toList)

mutual

theorem squeeze_prettyChars (d : Nat) (v : Json) (r : List Char) :
    squeeze .between (prettyChars d v ++ r) = compactChars v ++ squeeze .between r := by
  match v with
  | .null => rw [prettyChars, compactChars]; rfl
  | .bool true => rw [prettyChars, compactChars]; rfl
  | .bool false => rw [prettyChars, compactChars]; rfl
  | .str s => rw [prettyChars, compactChars, squeeze_quote]
  | .arr [] => rw [prettyChars, compactChars, compactItems]; rfl
  | .arr (v :: rest) =>
    simp only [prettyChars, compactChars, List.cons_append, List.append_assoc, List.nil_append]
    rw [squeeze_between (by decide) (by decide), squeeze_prettyItems, squeeze_newline,
      squeeze_between (by decide) (by decide)]
  | .obj [] => rw [prettyChars, compactChars, compactFields]; rfl
  | .obj (f :: rest) =>
    simp only [prettyChars, compactChars, List.cons_append, List.append_assoc, List.nil_append]
    rw [squeeze_between (by decide) (by decide), squeeze_prettyFields, squeeze_newline,
      squeeze_between (by decide) (by decide)]

theorem squeeze_prettyItems (d : Nat) (vs : List Json) (r : List Char) :
    squeeze .between (prettyItems d vs ++ r) = compactItems vs ++ squeeze .between r := by
  match vs with
  | [] => rw [prettyItems, compactItems]; rfl
  | [v] =>
    rw [prettyItems, compactItems, List.append_assoc, squeeze_newline, squeeze_prettyChars]
  | v :: w :: rest =>
    simp only [prettyItems, compactItems, List.cons_append, List.append_assoc]
    rw [squeeze_newline, squeeze_prettyChars, squeeze_between (by decide) (by decide),
      squeeze_prettyItems]

theorem squeeze_prettyFields (d : Nat) (fs : List (String × Json)) (r : List Char) :
    squeeze .between (prettyFields d fs ++ r) = compactFields fs ++ squeeze .between r := by
  have hkey (k : String) (t : List Char) :
      squeeze .between (newline d ++ (quote k ++ ':' :: ' ' :: t))
        = quote k ++ ':' :: squeeze .between t := by
    rw [squeeze_newline, squeeze_quote]
    rfl
  match fs with
  | [] => rw [prettyFields, compactFields]; rfl
  | [(k, v)] =>
    simp only [prettyFields, compactFields, List.cons_append, List.append_assoc]
    rw [hkey, squeeze_prettyChars]
  | (k, v) :: f :: rest =>
    simp only [prettyFields, compactFields, List.cons_append, List.append_assoc]
    rw [hkey, squeeze_prettyChars, squeeze_between (by decide) (by decide), squeeze_prettyFields]

end

/-- The compact text of a value is its indented text without the layout. -/
theorem squeeze_pretty (v : Json) : squeeze .between v.pretty.toList = v.compact.toList := by
  have h := squeeze_prettyChars 0 v []
  rw [List.append_nil, squeeze, List.append_nil] at h
  rw [pretty, compact, String.toList_ofList, String.toList_ofList]
  exact h

end DocAtlas.Json
