-- SUMMARY: Every link or image of a text starts inside the text, at an angle bracket, a bracket or an exclamation mark.
import DocAtlas.Markdown.Inline
import DocAtlas.Proofs.Markdown.Scanning
import Mathlib.Data.List.Infix

/-! # Where links start

A link starts at an angle bracket or a bracket, and an image at its exclamation
mark. Tokens get this from the characters they are read from; cutting off text
before or behind a token, and matching brackets, keep it. -/

namespace DocAtlas.Markdown

/-! ## Places in a text -/

/-- What is left at the cursor stands at its position in the text, perhaps cut at the end. -/
def Cursor.In (text : List Char) (c : Cursor) : Prop := c.rest <+: text.drop c.pos

namespace Cursor.In

variable {text : List Char} {c d : Cursor}

theorem ofText (text : List Char) : (Cursor.ofText text).In text := List.prefix_rfl

theorem reaches (h : c.In text) (hd : c.Reaches d) : d.In text := by
  obtain ⟨n, rfl⟩ := hd
  have hdrop := List.IsPrefix.drop h n
  rwa [List.drop_drop] at hdrop

theorem upTo (h : c.In text) (stop : Nat) : (c.upTo stop).In text :=
  (List.take_prefix _ _).trans h

theorem getElem? (h : c.In text) {i : Nat} {x : Char} (hx : c.rest[i]? = some x) :
    text[c.pos + i]? = some x := by
  obtain ⟨hi, rfl⟩ := List.getElem?_eq_some_iff.1 hx
  rw [← List.getElem?_drop, List.prefix_iff_getElem?.1 h i hi]

end Cursor.In

/-! ## Marks -/

/-- The characters that a link or an image starts with. -/
def marks : List Char := ['<', '!', '[']

/-- A link or an image may start at the position. -/
def IsMark (text : List Char) (i : Nat) : Prop := ∃ x ∈ marks, text[i]? = some x

theorem Cursor.In.isMark {text : List Char} {c : Cursor} (h : c.In text) {i : Nat} {x : Char}
    (hx : c.rest[i]? = some x) (hmark : x ∈ marks) : IsMark text (c.pos + i) :=
  ⟨x, hmark, h.getElem? hx⟩

namespace Token

/-- The kinds of tokens that a link or an image starts with. -/
def Kind.opens : Kind → Bool
  | .angle | .image | .opener => true
  | _ => false

/-- A token that a link may start with is not empty and has nothing but marks. -/
def Placed (text : List Char) (t : Token) : Prop :=
  t.kind.opens = true → t.start < t.stop ∧ ∀ i, t.start ≤ i → i < t.stop → IsMark text i

variable {text : List Char} {t : Token} {tokens : List Token}

theorem placed_of_not_opens (h : t.kind.opens = false) : t.Placed text := by
  intro hopens
  rw [h] at hopens
  cases hopens

theorem Placed.isMark (h : t.Placed text) (hopens : t.kind.opens = true) : IsMark text t.start :=
  (h hopens).2 t.start le_rfl (h hopens).1

/-- What is left of a token still opens the same link. -/
theorem Placed.cut (h : t.Placed text) {start stop : Nat} (hstart : t.start ≤ start)
    (hstop : stop ≤ t.stop) (hlt : start < stop) : Placed text ⟨t.kind, start, stop⟩ := by
  intro hopens
  exact ⟨hlt, fun i hi hi' => (h hopens).2 i (hstart.trans hi) (hi'.trans_le hstop)⟩

theorem placed_dropTo (h : ∀ t ∈ tokens, t.Placed text) (pos : Nat) :
    ∀ t ∈ dropTo pos tokens, t.Placed text := by
  induction tokens with
  | nil => exact h
  | cons t tokens ih =>
    obtain ⟨ht, htokens⟩ := List.forall_mem_cons.1 h
    unfold dropTo
    split
    next => exact ih htokens
    next hstop =>
      refine List.forall_mem_cons.2 ⟨?_, htokens⟩
      intro hopens
      exact ht.cut (le_max_left _ _) le_rfl (max_lt (ht hopens).1 (Nat.lt_of_not_le hstop)) hopens

end Token

/-! ## Lines -/

namespace Line

open Token

variable {text : List Char} {c d : Cursor} {line : Line} {acc : List Token}

/-- The line is read from `c` on, and its tokens are placed in the text. -/
structure ReadFrom (text : List Char) (c : Cursor) (line : Line) : Prop where
  tokens : ∀ t ∈ line.tokens, t.Placed text
  lineBreak : ∀ t ∈ line.lineBreak, t.Placed text
  stop : c.Reaches line.stop

theorem ReadFrom.of_reaches (h : line.ReadFrom text d) (hd : c.Reaches d) : line.ReadFrom text c :=
  ⟨h.tokens, h.lineBreak, hd.trans h.stop⟩

theorem placed_addText (hacc : ∀ t ∈ acc, t.Placed text) (start stop : Nat) :
    ∀ t ∈ addText start stop acc, t.Placed text := by
  unfold addText
  split
  next => exact List.forall_mem_cons.2 ⟨placed_of_not_opens rfl, hacc⟩
  next => exact hacc

theorem readFrom_close (hacc : ∀ t ∈ acc, t.Placed text) (line : Cursor) (start : Nat)
    {next : Cursor} (hnext : c.Reaches next) : (close line start acc c next).ReadFrom text c where
  tokens t ht := placed_addText hacc _ _ t (List.mem_reverse.1 ht)
  lineBreak t ht := by
    cases ht
    exact placed_of_not_opens rfl
  stop := hnext

theorem readFrom_cut (hacc : ∀ t ∈ acc, t.Placed text) (line : Cursor) (start : Nat) (c : Cursor) :
    (cut line start acc c).ReadFrom text c where
  tokens t ht := placed_addText hacc _ _ t (List.mem_reverse.1 ht)
  lineBreak t ht := by cases ht
  stop := .refl c

/-- A token that is read at `c` from marks only. -/
theorem placed_of_rest (hc : c.In text) {kind : Kind} (front : List Char) {rest : List Char}
    (hrest : c.rest = front ++ rest) (hfront : front ≠ [] ∧ ∀ x ∈ front, x ∈ marks) :
    Placed text ⟨kind, c.pos, c.pos + front.length⟩ := by
  intro _
  refine ⟨Nat.lt_add_of_pos_right (List.length_pos_iff.2 hfront.1), fun i hi hi' => ?_⟩
  obtain ⟨k, rfl⟩ := Nat.exists_eq_add_of_le hi
  have hk : k < front.length := Nat.lt_of_add_lt_add_left hi'
  refine hc.isMark ?_ (hfront.2 front[k] (List.getElem_mem hk))
  rw [hrest, List.getElem?_append_left hk, List.getElem?_eq_getElem hk]

theorem readFrom_scan (inCell : Bool) (line : Cursor) {fuel start : Nat} {slash : Bool}
    (hacc : ∀ t ∈ acc, t.Placed text) (hc : c.In text) :
    (scan inCell line fuel start slash acc c).ReadFrom text c := by
  induction fuel generalizing start slash acc c with
  | zero => exact readFrom_cut hacc line start c
  | succ fuel ih =>
    -- the recursive calls go on after some characters, with or without a token for them
    have hgo {d : Cursor} (hd : c.Reaches d) {start : Nat} {slash : Bool} {acc : List Token}
        (hacc : ∀ t ∈ acc, t.Placed text) :
        (scan inCell line fuel start slash acc d).ReadFrom text c :=
      (ih hacc (hc.reaches hd)).of_reaches hd
    have hbefore := placed_addText hacc start c.pos
    have hskip := c.reaches_advance
    have hwith {t : Token} (ht : t.Placed text) := List.forall_mem_cons.2 ⟨ht, hbefore⟩
    simp only [scan]
    split
    next => exact readFrom_cut hacc line start c
    next =>
      exact hgo ((hskip 1).trans (Cursor.reaches_advance _ _)) (hwith (placed_of_not_opens rfl))
    next =>
      split
      next => exact hgo (hskip 2) hbefore
      next => exact hgo (hskip 1) hacc
    next rest hrest =>
      split
      next => exact hgo (hskip 1) hacc
      next => exact hgo (hskip 1) (hwith (placed_of_rest hc ['<'] hrest (by simp [marks])))
    next rest hrest =>
      exact hgo (hskip 2) (hwith (placed_of_rest hc ['!', '['] hrest (by simp [marks])))
    next rest hrest =>
      exact hgo (hskip 1) (hwith (placed_of_rest hc ['['] hrest (by simp [marks])))
    next => exact hgo (hskip 1) (hwith (placed_of_not_opens rfl))
    next => exact hgo (hskip _) (hwith (placed_of_not_opens rfl))
    next =>
      split
      next => exact hgo (hskip _) (hwith (placed_of_not_opens rfl))
      next => exact hgo (hskip 1) hacc
    next =>
      split
      next => exact readFrom_cut hacc line start c
      next =>
        split
        next d hend =>
          split
          next => exact readFrom_cut hacc line start c
          next => exact readFrom_close hacc line start (Cursor.reaches_of_lineEnd? hend)
        next => exact hgo (hskip 1) hacc

theorem readFrom_ofCursor (hc : c.In text) : (ofCursor c).ReadFrom text c :=
  readFrom_scan false c (List.forall_mem_nil _) hc

theorem readFrom_ofCell (hc : c.In text) : (ofCell c).ReadFrom text c :=
  readFrom_scan true c (List.forall_mem_nil _) hc

end Line

/-! ## Blocks -/

namespace Outline

open Token

variable {text : List Char} {o : Outline} {c d : Cursor} {read : Outline × Cursor}

/-- The tokens of all running texts are placed in the text. -/
def Placed (text : List Char) (o : Outline) : Prop := ∀ r ∈ o.runs, ∀ t ∈ r.tokens, t.Placed text

theorem Placed.congr {o' : Outline} (h : o.Placed text) (hruns : o'.runs = o.runs) :
    o'.Placed text := by
  rwa [Placed, hruns]

theorem placed_addRun (h : o.Placed text) (origin : Cursor) (stop : Nat) {tokens : List Token}
    (htokens : ∀ t ∈ tokens, t.Placed text) (inTable : Bool) :
    (o.addRun origin stop tokens inTable).Placed text :=
  List.forall_mem_cons.2 ⟨htokens, h⟩

/-- A block is read from `c` on, and the tokens of its running texts are placed in the text. -/
structure ReadFrom (text : List Char) (c : Cursor) (read : Outline × Cursor) : Prop where
  placed : read.1.Placed text
  stop : c.Reaches read.2

theorem ReadFrom.of_reaches (h : ReadFrom text d read) (hd : c.Reaches d) : ReadFrom text c read :=
  ⟨h.placed, hd.trans h.stop⟩

/-! ### Containers -/

def Opened.outline : Opened → Outline
  | .text o _ => o
  | .used o _ => o

theorem runs_endEmptyItem (o : Outline) : o.endEmptyItem.runs = o.runs := by
  simp only [endEmptyItem]
  split
  · split <;> rfl
  · rfl

theorem runs_endList (o : Outline) : o.endList.runs = o.runs := by
  rw [← runs_endEmptyItem o]
  simp only [endList]
  split <;> rfl

theorem runs_continueList (o : Outline) (mark : Char) : (o.continueList mark).runs = o.runs := by
  simp only [continueList]
  split
  · exact runs_endEmptyItem o
  · rw [← runs_endEmptyItem o]
    exact runs_endList _

theorem runs_startNote (o : Outline) (label : List Char) : (o.startNote label).runs = o.runs := by
  rw [← runs_endList o]
  simp only [startNote, push]
  split <;> rfl

theorem runs_blankLine (o : Outline) : o.blankLine.runs = o.runs := by
  unfold blankLine
  split
  · rfl
  · split <;> rfl
  · rfl

theorem runs_openContainers (fuel : Nat) (o : Outline) (l : Lead) :
    (openContainers fuel o l).outline.runs = o.runs := by
  induction fuel generalizing o l with
  | zero => rfl
  | succ fuel ih =>
    have hitem (mark : Char) (indent : Nat) :
        ((o.continueList mark).push (.item indent)).runs = o.runs := runs_continueList o mark
    simp only [openContainers]
    split
    · rfl
    split
    next => exact (ih _ _).trans (runs_startNote o _)
    next =>
      split
      next mark indent _ _ =>
        split
        next => exact hitem mark indent
        next =>
          split
          next =>
            split
            next => exact hitem mark indent
            next => exact (ih _ _).trans (hitem mark indent)
          next => exact (ih _ _).trans (hitem mark indent)
      next =>
        split
        next => exact (ih _ _).trans (runs_endList o)
        next => rfl

/-! ### Leaves -/

theorem readFrom_heading (h : o.Placed text) (hc : c.In text) (level : Nat) :
    ReadFrom text c (o.heading level c) := by
  have hlevel := c.reaches_advance level
  simp only [heading]
  split
  next d hd => exact ⟨h, hlevel.trans (Cursor.reaches_of_lineEnd? hd)⟩
  next =>
    have hskip := hlevel.trans (Cursor.reaches_skipWhile isSpace _)
    refine ⟨placed_addRun h _ _ ?_ false, hskip.trans (Cursor.reaches_nextLine _)⟩
    exact (Line.readFrom_ofCursor ((hc.reaches hskip).upTo _)).tokens

theorem placed_underlined {tokens : List Token} (h : ∀ t ∈ tokens, t.Placed text) (origin : Cursor)
    (escapedBreak : Bool) : ∀ t ∈ underlined origin escapedBreak tokens, t.Placed text := by
  intro t ht
  simp only [underlined] at ht
  split at ht
  next => exact h t ht
  next length _ =>
    simp only [List.mem_map, List.mem_filter, decide_eq_true_eq] at ht
    obtain ⟨t, ⟨ht, hstart⟩, rfl⟩ := ht
    intro hopens
    exact (h t ht).cut le_rfl (min_le_left _ _) (lt_min (h t ht hopens).1 hstart) hopens

theorem readFrom_row (h : o.Placed text) (hc : c.In text) (fuel columns : Nat) :
    ReadFrom text c (row fuel columns o c) := by
  induction fuel generalizing columns o c with
  | zero => exact ⟨h, .refl c⟩
  | succ fuel ih =>
    have hpipe : c.Reaches ((c.char? '|').getD c) := by
      cases hchar : c.char? '|' with
      | none => exact .refl c
      | some d => exact Cursor.reaches_of_char? hchar
    have hskip := hpipe.trans (Cursor.reaches_skipWhile isSpace _)
    simp only [row]
    split
    next d hd => exact ⟨h, hskip.trans (Cursor.reaches_of_lineEnd? hd)⟩
    next =>
      have hcell := Line.readFrom_ofCell (hc.reaches hskip)
      have hstop := hskip.trans hcell.stop
      refine (ih ?_ (hc.reaches hstop) _).of_reaches hstop
      split
      next => exact h
      next => exact placed_addRun h _ _ hcell.tokens true

theorem readFrom_rows (h : o.Placed text) (hc : c.In text) (columns fuel : Nat) :
    ReadFrom text c (rows columns fuel o c) := by
  induction fuel generalizing o c with
  | zero => exact ⟨h, .refl c⟩
  | succ fuel ih =>
    have hstart := (o.margin.reaches_enter c).trans (Lead.reaches_takeAll _)
    simp only [rows]
    split
    next => exact ⟨h, .refl c⟩
    next =>
      have hrow := readFrom_row h (hc.reaches hstart)
        ((o.margin.enter c).2.takeAll.cursor.rest.length + 1) columns
      have hstop := hstart.trans hrow.stop
      exact (ih hrow.placed (hc.reaches hstop)).of_reaches hstop

theorem readFrom_paragraphLines (h : o.Placed text) (hc : c.In text) (origin : Cursor) (fuel : Nat)
    {acc : List Token} (hacc : ∀ t ∈ acc, t.Placed text) :
    ReadFrom text c (paragraphLines origin fuel o acc c) := by
  induction fuel generalizing acc c with
  | zero => exact ⟨h, .refl c⟩
  | succ fuel ih =>
    have hline := Line.readFrom_ofCursor hc
    have htokens := List.forall_mem_append.2 ⟨hacc, hline.tokens⟩
    have htake := hline.stop.trans (o.margin.reaches_enter_take _ 4)
    simp only [paragraphLines]
    split
    next stop hheading =>
      obtain ⟨-, hstop⟩ := Option.ite_none_right_eq_some.1 hheading
      exact ⟨placed_addRun h _ _ (placed_underlined htokens origin _) false,
        htake.trans (LineKind.reaches_of_underline? hstop)⟩
    next =>
      split
      next => exact ⟨placed_addRun h _ _ htokens false, hline.stop⟩
      next =>
        have hnext := htake.trans (Lead.reaches_takeAll _)
        refine (ih (hc.reaches hnext) ?_).of_reaches hnext
        refine List.forall_mem_append.2 ⟨htokens, fun t ht => ?_⟩
        exact hline.lineBreak t (Option.mem_toList.1 ht)

theorem readFrom_paragraph (h : o.Placed text) (hc : c.In text) :
    ReadFrom text c (o.paragraph c) := by
  unfold paragraph
  split
  next columns body hhead =>
    have hbody := LineKind.reaches_of_tableHead? hhead
    have hrow := readFrom_row h hc (c.rest.length + 1) columns
    exact (readFrom_rows hrow.placed (hc.reaches hbody) columns _).of_reaches hbody
  next => exact readFrom_paragraphLines h hc c _ (List.forall_mem_nil _)

theorem readFrom_leaf (h : o.Placed text) (hc : c.In text) (indent : Nat) :
    ReadFrom text c (o.leaf indent c) := by
  unfold leaf
  split
  next d hhtml => exact ⟨h, reaches_of_html? hhtml⟩
  next =>
    split
    next =>
      refine ⟨h, ?_⟩
      cases hend : (c.skipWhile fun x => !isLineEnd x).lineEnd? with
      | none => exact .refl c
      | some d => exact (Cursor.reaches_skipWhile _ c).trans (Cursor.reaches_of_lineEnd? hend)
    next =>
      split
      next level _ => exact readFrom_heading h hc level
      next mark n _ _ =>
        refine ⟨h, c.reaches_nextLine.trans ?_⟩
        exact (reaches_fencedCode _ indent mark n _ _).trans (reaches_skipBlankLine _)
      next =>
        split
        next found d hfound =>
          exact ⟨h, (Definition.reaches_of_scan hfound).trans (reaches_skipBlankLine _)⟩
        next => exact readFrom_paragraph h hc

theorem readFrom_block (h : o.Placed text) (hc : c.In text) : ReadFrom text c (o.block c) := by
  have hfollow := o.margin.reaches_follow (Lead.ofCursor c)
  simp only [block]
  generalize o.margin.follow (Lead.ofCursor c) = followed at hfollow ⊢
  have hplace := hfollow.trans (reaches_openContainers (c.rest.length + 1)
    { o with margin := o.margin.take followed.1 } followed.2)
  have hruns := runs_openContainers (c.rest.length + 1)
    { o with margin := o.margin.take followed.1 } followed.2
  generalize openContainers _ _ _ = opened at hplace hruns ⊢
  cases opened with
  | used o' next => exact ⟨h.congr hruns, hplace⟩
  | text o' lead =>
    replace h := h.congr hruns
    simp only
    split
    next d hblank =>
      exact ⟨h.congr (runs_blankLine o'), hplace.trans (Cursor.reaches_of_blankLine? hblank)⟩
    next =>
      replace h := h.congr (runs_endList o')
      have htake := hplace.trans (lead.reaches_take 4)
      split
      next => exact ⟨h, htake.trans (reaches_indentedCode _ _ _)⟩
      next => exact (readFrom_leaf h (hc.reaches htake) _).of_reaches htake

theorem placed_blocks (h : o.Placed text) (hc : c.In text) (fuel : Nat) :
    (blocks fuel o c).Placed text := by
  induction fuel generalizing o c with
  | zero => exact h
  | succ fuel ih =>
    simp only [blocks]
    split
    next => exact h
    next =>
      have hblock := readFrom_block h hc
      exact ih hblock.placed (hc.reaches hblock.stop)

theorem placed_ofText (text : List Char) : (ofText text).Placed text := by
  have hempty : ({} : Outline).Placed text := List.forall_mem_nil _
  exact placed_blocks hempty (Cursor.In.ofText text) _

end Outline

/-! ## Brackets -/

namespace Reading

open Token

variable {text : List Char} {o : Outline} {r : Run} {s : Reading} {b : Opener} {t : Token}
variable {rest : List Token}

/-- What is found so far starts at marks, and so does what may still be found. -/
structure Placed (text : List Char) (s : Reading) : Prop where
  tokens : ∀ t ∈ s.tokens, t.Placed text
  openers : ∀ b ∈ s.openers, IsMark text b.token.start
  events : ∀ e ∈ s.events, IsMark text e.start

theorem Placed.drop (h : s.Placed text) (hrest : ∀ t ∈ rest, t.Placed text) :
    ({ s with tokens := rest } : Reading).Placed text :=
  ⟨hrest, h.openers, h.events⟩

theorem Placed.of_sublist (h : s.Placed text) (hrest : rest.Sublist s.tokens) :
    ∀ t ∈ rest, t.Placed text :=
  fun t ht => h.tokens t (hrest.subset ht)

theorem Placed.of_dropWhile (h : s.Placed text) {p : Token → Bool}
    (hdrop : s.tokens.dropWhile p = t :: rest) : ∀ t ∈ rest, t.Placed text := by
  have hsublist := List.dropWhile_sublist (l := s.tokens) p
  rw [hdrop] at hsublist
  exact h.of_sublist (List.sublist_of_cons_sublist hsublist)

theorem placed_spend (h : ∀ t ∈ rest, t.Placed text) (pos : Nat) :
    ∀ t ∈ spend pos rest, t.Placed text := by
  induction rest with
  | nil => exact h
  | cons t rest ih =>
    obtain ⟨ht, hrest⟩ := List.forall_mem_cons.1 h
    unfold spend
    split
    next => exact List.forall_mem_cons.2 ⟨ht, ih hrest⟩
    next => exact List.forall_mem_cons.2 ⟨placed_of_not_opens rfl, hrest⟩

theorem placed_link (h : s.Placed text) (hb : IsMark text b.token.start)
    (hrest : ∀ t ∈ rest, t.Placed text) (dest : List Char) : (s.link b dest rest).Placed text := by
  refine ⟨hrest, ?_, List.forall_mem_cons.2 ⟨hb, h.events⟩⟩
  intro b' hb'
  simp only [link] at hb'
  split at hb'
  next => exact h.openers b' hb'
  next =>
    obtain ⟨b', hmem, rfl⟩ := List.mem_map.1 hb'
    split
    · exact h.openers b' hmem
    · exact h.openers b' hmem

theorem placed_angle (h : s.Placed text) (ht : IsMark text t.start) : (s.angle r t).Placed text := by
  simp only [angle]
  split
  next => exact h
  next first rest _ =>
    split
    next event d hevent =>
      refine ⟨placed_dropTo h.tokens d.pos, h.openers, ?_⟩
      refine List.forall_mem_append.2 ⟨fun e he => ?_, h.events⟩
      obtain rfl := Option.mem_toList.1 he
      -- an address starts with the angle bracket, and markup is no event
      split at hevent
      next =>
        cases hevent
        exact ht
      next =>
        split at hevent
        next =>
          cases hevent
          exact ht
        next =>
          obtain ⟨d, -, hnone⟩ := Option.map_eq_some_iff.1 hevent
          cases hnone
    next => exact h

theorem placed_code (h : s.Placed text) (n : Nat) : (s.code n).Placed text := by
  unfold code
  split
  next => exact h
  next t rest hdrop => exact h.drop (h.of_dropWhile hdrop)

theorem sublist_of_referral {tokens : List Token} (h : referral r tokens = .collapsed rest) :
    rest.Sublist tokens := by
  unfold referral at h
  split at h
  next => cases h
  next first tokens =>
    simp only at h
    split at h
    next =>
      cases h
      exact (List.drop_sublist 1 tokens).trans (List.sublist_cons_self first tokens)
    next => split at h <;> cases h

theorem placed_ownLabel (h : s.Placed text) (hb : IsMark text b.token.start)
    (hrest : ∀ t ∈ rest, t.Placed text) : (s.ownLabel o r b t rest).Placed text := by
  simp only [ownLabel]
  split
  next reference d _ =>
    split
    next => exact h
    next =>
      split
      next label =>
        split
        next found _ => exact placed_link h hb hrest found.dest
        next => exact h
      next label =>
        split
        next =>
          refine ⟨h.tokens, List.forall_mem_nil _, fun e he => ?_⟩
          exact h.events e ((List.dropWhile_sublist _).subset he)
        next => exact h
  next => exact h

theorem placed_close (h : s.Placed text) (hb : IsMark text b.token.start) (viable : Bool) :
    (s.close o r b t viable).Placed text := by
  unfold close
  split
  next dest d _ => exact placed_link h hb (placed_dropTo h.tokens d.pos) dest
  next =>
    split
    next label stop _ =>
      split
      next => exact h
      next t rest hdrop =>
        split
        next found _ => exact placed_link h hb (h.of_dropWhile hdrop) found.dest
        next => exact h.drop (placed_spend h.tokens _)
    next rest hrest =>
      split
      next => exact placed_ownLabel h hb (h.of_sublist (sublist_of_referral hrest))
      next => exact h
    next =>
      split
      next => exact placed_ownLabel h hb h.tokens
      next => exact h

theorem placed_step (h : s.Placed text) (ht : t.Placed text) : (s.step o r t).Placed text := by
  have hopener (hopens : t.kind.opens = true) :
      ({ s with openers := ⟨t, false⟩ :: s.openers } : Reading).Placed text :=
    ⟨h.tokens, List.forall_mem_cons.2 ⟨ht.isMark hopens, h.openers⟩, h.events⟩
  unfold step
  split
  next => exact h
  next => exact h
  next hkind => exact placed_angle h (ht.isMark (by rw [hkind]; rfl))
  next => exact placed_code h _
  next hkind => exact hopener (by rw [hkind]; rfl)
  next hkind => exact hopener (by rw [hkind]; rfl)
  next viable _ =>
    split
    next => exact h
    next b openers hs =>
      obtain ⟨hb, hopeners⟩ := List.forall_mem_cons.1 (hs ▸ h.openers)
      have hpopped : ({ s with openers } : Reading).Placed text := ⟨h.tokens, hopeners, h.events⟩
      simp only
      split
      next => exact hpopped
      next => exact placed_close hpopped hb viable

theorem placed_finish (h : s.Placed text) (fuel : Nat) : (finish o r fuel s).Placed text := by
  induction fuel generalizing s with
  | zero => exact h
  | succ fuel ih =>
    unfold finish
    split
    next => exact h
    next t rest hs =>
      obtain ⟨ht, hrest⟩ := List.forall_mem_cons.1 (hs ▸ h.tokens)
      exact ih (placed_step (h.drop hrest) ht)

end Reading

/-- Every link or image of a text starts at a mark in it. -/
theorem isMark_of_mem_events {text : List Char} {e : Event} (he : e ∈ events text) :
    IsMark text e.start := by
  obtain ⟨r, hr, he⟩ := List.mem_flatMap.1 (List.mem_mergeSort.1 he)
  have hstart : Reading.Placed text { tokens := r.tokens } :=
    ⟨Outline.placed_ofText text r hr, List.forall_mem_nil _, List.forall_mem_nil _⟩
  exact (Reading.placed_finish hstart _).events e he

end DocAtlas.Markdown
