-- Replies to free texts: each place of a template gets its value, and all else
-- stays. Only the sender may be changed on the way: the places of the thought and of
-- the beginning of the text are filled in a sender, too, if it holds them.
import ChatBot.Proofs.Text.Replacing
import ChatBot.Reply.Template

namespace ChatBot.Reply

/-! ## Templates as rows of pieces -/

/-- A place in a template. -/
inductive Place
  | sender
  | thought
  | preview
  deriving DecidableEq, Repr

/-- How a place is written. -/
def Place.written : Place → List Char
  | .sender => "{sender}".toList
  | .thought => "{thought}".toList
  | .preview => "{preview}".toList

/-- A piece of a template: a character that stays, or a place. -/
inductive Piece
  | char (c : Char)
  | place (p : Place)
  deriving DecidableEq, Repr

/-- The place at the front of a text. -/
def frontPlace? (cs : List Char) : Option Place :=
  [.sender, .thought, .preview].find? fun p => p.written.isPrefixOf cs

/-- The pieces of a template. -/
def pieces : List Char → List Piece
  | [] => []
  | c :: rest =>
    match frontPlace? (c :: rest) with
    | some p => .place p :: pieces (rest.drop (p.written.length - 1))
    | none => .char c :: pieces rest
termination_by cs => cs.length
decreasing_by
  · exact Nat.lt_succ_of_le (List.drop_sublist _ _).length_le
  · exact Nat.lt_succ_self _

/-- What stands for a piece once the places have values. -/
def Piece.content (value : Place → List Char) : Piece → List Char
  | .char c => [c]
  | .place p => value p

/-- A row of pieces, all places filled at once. -/
def filled (value : Place → List Char) (ps : List Piece) : List Char :=
  ps.flatMap (Piece.content value)

/-- The three values as one function. -/
def values (sender thought preview : List Char) : Place → List Char
  | .sender => sender
  | .thought => thought
  | .preview => preview

/-- A template with all places filled at once. What is put in is not looked at again. -/
def filledAtOnce (template sender thought preview : String) : String :=
  String.ofList (filled (values sender.toList thought.toList preview.toList) (pieces template.toList))

@[simp] theorem filled_nil (value : Place → List Char) : filled value [] = [] := rfl

@[simp] theorem filled_cons (value : Place → List Char) (p : Piece) (ps : List Piece) :
    filled value (p :: ps) = p.content value ++ filled value ps := rfl

theorem written_ne_nil (p : Place) : p.written ≠ [] := by cases p <;> decide

/-- Every place begins with a brace. -/
theorem written_eq_cons (p : Place) : ∃ more, p.written = '\x7b' :: more ∧ '\x7b' ∉ more := by
  cases p
  · exact ⟨"sender\x7d".toList, rfl, by decide⟩
  · exact ⟨"thought\x7d".toList, rfl, by decide⟩
  · exact ⟨"preview\x7d".toList, rfl, by decide⟩

/-- Places differ right behind their braces. -/
theorem not_isPrefixOf_written {p q : Place} (h : p ≠ q) (rest : List Char) :
    p.written.isPrefixOf (q.written ++ rest) = false := by
  cases p with
  | sender => cases q with
    | sender => contradiction
    | thought => rfl
    | preview => rfl
  | thought => cases q with
    | sender => rfl
    | thought => contradiction
    | preview => rfl
  | preview => cases q with
    | sender => rfl
    | thought => rfl
    | preview => contradiction

/-- Reading a template as pieces loses nothing. -/
theorem filled_written (template : List Char) : filled Place.written (pieces template) = template := by
  fun_induction pieces template with
  | case1 => rfl
  | case2 c rest p hp ih =>
    have hfront := List.find?_some hp
    rw [filled_cons, ih, Piece.content, ← Text.eq_append_of_isPrefixOf (written_ne_nil p) hfront]
  | case3 c rest hp ih => rw [filled_cons, ih]; rfl

/-! ## One pass over a template -/

/-- Whether a place does not run into the piece behind it: that one is a character which no
place holds. -/
def Piece.bars : Piece → Bool
  | .char c => !("\x7bsenderthoughtpreview\x7d".toList.contains c)
  | .place _ => false

/-- Whether the places of a template can be told from what is put in: no other brace is opened,
and a sender does not run into what stands behind it. -/
def apart : List Piece → Bool
  | [] => true
  | .char c :: more => c != '\x7b' && apart more
  | .place .sender :: more => more.head?.all Piece.bars && apart more
  | .place _ :: more => apart more

theorem not_mem_written_of_bars {c : Char} (h : (Piece.char c).bars = true) (p : Place) :
    c ∉ p.written := by
  intro hc
  have hall : ∀ d ∈ p.written, "\x7bsenderthoughtpreview\x7d".toList.contains d = true := by
    cases p <;> exact List.all_eq_true.1 rfl
  have hmem := hall c hc
  simp only [Piece.bars, hmem] at h
  contradiction

/-- A value that a pass cannot take for the beginning of a place, or that is a place. -/
def Steady (s : List Char) : Prop := '\x7b' ∉ s ∨ ∃ p : Place, s = p.written

/-- The pass for one place leaves another one as it is. -/
theorem replaceAll_other {p q : Place} (h : p ≠ q) (v rest : List Char) :
    Text.replaceAll p.written v (q.written ++ rest) =
      q.written ++ Text.replaceAll p.written v rest := by
  obtain ⟨more, hp, -⟩ := written_eq_cons p
  obtain ⟨letters, hq, hletters⟩ := written_eq_cons q
  have hfront := not_isPrefixOf_written h rest
  rw [hq, List.cons_append] at hfront ⊢
  rw [Text.replaceAll_cons_of_not_isPrefixOf v hfront, hp,
    Text.replaceAll_append_of_head_not_mem hletters, List.cons_append]

/-- Without a brace there is no place. -/
theorem replaceAll_plain {s : List Char} (h : '\x7b' ∉ s) (p : Place) (v rest : List Char) :
    Text.replaceAll p.written v (s ++ rest) = s ++ Text.replaceAll p.written v rest := by
  obtain ⟨more, hp, -⟩ := written_eq_cons p
  rw [hp, Text.replaceAll_append_of_head_not_mem h]

/-- Behind a steady value, a pass starts anew. -/
theorem Steady.replaceAll_append {s : List Char} (h : Steady s) (p : Place) (v rest : List Char) :
    Text.replaceAll p.written v (s ++ rest) =
      Text.replaceAll p.written v s ++ Text.replaceAll p.written v rest := by
  rcases h with hs | ⟨q, rfl⟩
  · exact Text.replaceAll_append_of_front (replaceAll_plain hs p v) rest
  · by_cases hpq : p = q
    · subst hpq
      exact Text.replaceAll_append_of_front (Text.replaceAll_append (written_ne_nil p) v) rest
    · exact Text.replaceAll_append_of_front (replaceAll_other hpq v) rest

/-- A pass over a filled template is a pass over each of the values. -/
theorem replaceAll_filled {ps : List Piece} (hps : apart ps = true) {value : Place → List Char}
    (hvalue : ∀ q, q ≠ .sender → Steady (value q)) (p : Place) (v : List Char) :
    Text.replaceAll p.written v (filled value ps) =
      filled (fun q => Text.replaceAll p.written v (value q)) ps := by
  induction ps with
  | nil => exact Text.replaceAll_nil _ _
  | cons piece more ih =>
    rw [filled_cons, filled_cons]
    match piece with
    | .char c =>
      simp only [apart, Bool.and_eq_true, bne_iff_ne] at hps
      obtain ⟨letters, hp, -⟩ := written_eq_cons p
      have hmore := ih hps.2
      rw [hp] at hmore ⊢
      rw [Piece.content, List.singleton_append, Text.replaceAll_cons_of_head hps.1, hmore]
      rfl
    | .place .thought =>
      rw [Piece.content, (hvalue .thought (by decide)).replaceAll_append, ih hps]
      rfl
    | .place .preview =>
      rw [Piece.content, (hvalue .preview (by decide)).replaceAll_append, ih hps]
      rfl
    | .place .sender =>
      simp only [apart, Bool.and_eq_true] at hps
      have hmore := ih hps.2
      match more, hps.1 with
      | [], _ => simp [Piece.content]
      | .char c :: rest, hbars =>
        have hc := not_mem_written_of_bars (by simpa using hbars) p
        rw [filled_cons] at hmore
        rw [Piece.content, filled_cons, Piece.content, List.singleton_append,
          Text.replaceAll_append_cons hc, ← List.singleton_append]
        exact congrArg _ hmore
      | .place q :: rest, hbars => simp [Piece.bars] at hbars

theorem replaceAll_values {ps : List Piece} (hps : apart ps = true)
    {sender thought preview : List Char} (hthought : Steady thought) (hpreview : Steady preview)
    (p : Place) (v : List Char) :
    Text.replaceAll p.written v (filled (values sender thought preview) ps) =
      filled (values (Text.replaceAll p.written v sender) (Text.replaceAll p.written v thought)
        (Text.replaceAll p.written v preview)) ps := by
  rw [replaceAll_filled hps]
  · congr 1
    funext q
    cases q <;> rfl
  · intro q hq
    cases q with
    | sender => contradiction
    | thought => exact hthought
    | preview => exact hpreview

/-! ## The three passes -/

theorem replaceAll_same (p : Place) (v : List Char) : Text.replaceAll p.written v p.written = v := by
  have h := Text.replaceAll_append (written_ne_nil p) v []
  simpa using h

theorem replaceAll_else {p q : Place} (h : p ≠ q) (v : List Char) :
    Text.replaceAll p.written v q.written = q.written := by
  have h := replaceAll_other h v []
  simpa using h

theorem replaceAll_nowhere {s : List Char} (h : '\x7b' ∉ s) (p : Place) (v : List Char) :
    Text.replaceAll p.written v s = s := by
  have h := replaceAll_plain h p v []
  simpa using h

theorem apart_templates (c : Category) : ∀ t ∈ templates c, apart (pieces t.toList) = true := by
  cases c with
  | greeting => decide +kernel
  | wellBeing => decide +kernel
  | gratitude => decide +kernel
  | fallback => decide +kernel

/-- No thought opens a brace, and each has more than one word. -/
theorem plain_thoughts : ∀ t ∈ thoughts, '\x7b' ∉ t.toList ∧ ' ' ∈ t.toList := by decide +kernel

/-- What becomes of a sender: the places of the other two values are filled in it. -/
def expanded (sender thought preview : String) : String :=
  Text.replaced (Text.replaced sender "{thought}" thought) "{preview}" preview

/-- The three passes fill all places at once, but a sender comes out expanded. -/
theorem fill_eq {template thought : String} (htemplate : apart (pieces template.toList) = true)
    (hthought : '\x7b' ∉ thought.toList) (sender preview : String) :
    fill template sender thought preview =
      filledAtOnce template (expanded sender thought preview) thought preview := by
  have hsteady : ∀ q : Place, Steady q.written := fun q => .inr ⟨q, rfl⟩
  have hplain : Steady thought.toList := .inl hthought
  have hwritten : filled Place.written (pieces template.toList) =
      filled (values Place.sender.written Place.thought.written Place.preview.written)
        (pieces template.toList) := by
    have hvalues : Place.written =
        values Place.sender.written Place.thought.written Place.preview.written := by
      funext q
      cases q <;> rfl
    exact congrArg (filled · _) hvalues
  unfold fill expanded filledAtOnce Text.replaced
  simp only [String.toList_ofList]
  apply congrArg String.ofList
  calc _ = Text.replaceAll Place.preview.written preview.toList
          (Text.replaceAll Place.thought.written thought.toList
            (Text.replaceAll Place.sender.written sender.toList
              (filled Place.written (pieces template.toList)))) := by
        rw [filled_written]
        rfl
    _ = Text.replaceAll Place.preview.written preview.toList
          (Text.replaceAll Place.thought.written thought.toList
            (filled (values sender.toList Place.thought.written Place.preview.written)
              (pieces template.toList))) := by
        rw [hwritten, replaceAll_values htemplate (hsteady _) (hsteady _), replaceAll_same,
          replaceAll_else (by decide), replaceAll_else (by decide)]
    _ = Text.replaceAll Place.preview.written preview.toList
          (filled (values (Text.replaceAll Place.thought.written thought.toList sender.toList)
            thought.toList Place.preview.written) (pieces template.toList)) := by
        rw [replaceAll_values htemplate (hsteady _) (hsteady _), replaceAll_same,
          replaceAll_else (by decide)]
    _ = _ := by
        rw [replaceAll_values htemplate hplain (hsteady _), replaceAll_same, replaceAll_nowhere hthought]
        rfl

/-! ## When a sender stays as it is -/

/-- Every place for the sender adds its length. -/
theorem length_filled (ps : List Piece) (sender thought preview : List Char) :
    (filled (values sender thought preview) ps).length =
      (filled (values [] thought preview) ps).length + ps.count (.place .sender) * sender.length := by
  induction ps with
  | nil => simp
  | cons piece more ih =>
    simp only [filled_cons, List.length_append, ih]
    match piece with
    | .char c => simp [Piece.content]; omega
    | .place .thought => simp [Piece.content, values]; omega
    | .place .preview => simp [Piece.content, values]; omega
    | .place .sender => simp [Piece.content, values, Nat.add_mul]; omega

/-- Two senders of one length make the same of a template only if they are the same. -/
theorem eq_of_filled_eq {ps : List Piece} {sender other thought preview : List Char}
    (hplace : Piece.place .sender ∈ ps) (hlength : sender.length = other.length)
    (h : filled (values sender thought preview) ps = filled (values other thought preview) ps) :
    sender = other := by
  induction ps with
  | nil => cases hplace
  | cons piece more ih =>
    rw [filled_cons, filled_cons] at h
    match piece with
    | .char c =>
      exact ih (by simpa using hplace) (List.append_cancel_left h)
    | .place .thought =>
      exact ih (by simpa using hplace) (List.append_cancel_left h)
    | .place .preview =>
      exact ih (by simpa using hplace) (List.append_cancel_left h)
    | .place .sender => exact (List.append_inj h hlength).1

/-- Two senders make the same of a template only if it has no place for them, or they are the
same. -/
theorem filled_eq_iff (ps : List Piece) (sender other thought preview : List Char) :
    filled (values sender thought preview) ps = filled (values other thought preview) ps ↔
      Piece.place .sender ∉ ps ∨ sender = other := by
  constructor
  · intro h
    by_cases hplace : Piece.place .sender ∈ ps
    · right
      have hlength := congrArg List.length h
      rw [length_filled, length_filled ps other] at hlength
      have hsame := Nat.eq_of_mul_eq_mul_left (List.count_pos_iff.2 hplace)
        (Nat.add_left_cancel hlength)
      exact eq_of_filled_eq hplace hsame h
    · exact .inl hplace
  · rintro (hplace | rfl)
    · apply List.flatMap_congr
      intro piece hpiece
      match piece, hpiece with
      | .char c, _ => rfl
      | .place .thought, _ => rfl
      | .place .preview, _ => rfl
      | .place .sender, hmem => exact absurd hmem hplace
    · rfl

theorem toList_expanded (sender thought preview : String) :
    (expanded sender thought preview).toList =
      Text.replaceAll Place.preview.written preview.toList
        (Text.replaceAll Place.thought.written thought.toList sender.toList) := by
  unfold expanded
  rw [Text.toList_replaced, Text.toList_replaced]
  rfl

/-- Only the two later places in a sender change it. The words of a thought are set apart by
spaces, and no place holds a space: so what a thought brought in stays. -/
theorem expanded_eq_iff {thought : String} (hthought : ' ' ∈ thought.toList)
    (sender preview : String) :
    expanded sender thought preview = sender ↔
      ¬ "{thought}".toList <:+: sender.toList ∧
        (¬ "{preview}".toList <:+: sender.toList ∨ preview = "{preview}") := by
  have hnospace : ∀ p : Place, p.written.count ' ' = 0 := by
    intro p
    cases p <;> rfl
  have hpreview : preview = "{preview}" ↔ preview.toList = Place.preview.written :=
    String.toList_inj.symm
  rw [← String.toList_inj, toList_expanded, hpreview]
  change _ ↔ ¬ Place.thought.written <:+: sender.toList ∧
    (¬ Place.preview.written <:+: sender.toList ∨ preview.toList = Place.preview.written)
  constructor
  · intro h
    have hnone : ¬ Place.thought.written <:+: sender.toList := by
      intro hplace
      have hpos := Nat.mul_pos (Text.places_pos_of_infix (written_ne_nil .thought) hplace)
        (List.count_pos_iff.2 hthought)
      have hfirst :=
        Text.count_replaceAll (written_ne_nil .thought) ' ' thought.toList sender.toList
      have hsecond := Text.count_replaceAll (written_ne_nil .preview) ' ' preview.toList
        (Text.replaceAll Place.thought.written thought.toList sender.toList)
      simp only [h, hnospace, Nat.mul_zero, Nat.add_zero] at hfirst hsecond
      omega
    rw [Text.replaceAll_of_not_infix hnone,
      Text.replaceAll_eq_self_iff (written_ne_nil .preview)] at h
    exact ⟨hnone, h⟩
  · rintro ⟨hnone, h⟩
    rw [Text.replaceAll_of_not_infix hnone,
      Text.replaceAll_eq_self_iff (written_ne_nil .preview)]
    exact h

/-- One of the items is picked. -/
theorem pick_mem {α : Type} (items : List α) (h : items ≠ []) (draws : Draws) :
    (draws.pick items h).1 ∈ items := List.get_mem _ _

/-! ## Replies -/

/-- Of a reply, only the sender may not be as it was: its template is filled with the thought and
the beginning of the text at once, and with the sender as it comes out of the later passes. That
is the sender itself, unless the template shows the sender and the sender holds the place of the
thought, or that of the beginning of the text and this is not the text of the place. -/
theorem a_reply_is_filled_at_once_iff_its_sender_holds_no_later_place (text : String)
    (sender : Chat.UserId) (draws : Draws) :
    ∃ template thought draws',
      draws.pick (templates (categorize text)) (templates_ne_nil (categorize text)) =
        (template, draws') ∧
      template ∈ templates (categorize text) ∧
      (draws'.pick thoughts thoughts_ne_nil).1 = thought ∧ thought ∈ thoughts ∧
      toText text sender draws =
        (filledAtOnce template (expanded sender.text thought (preview text)) thought (preview text),
          (draws'.pick thoughts thoughts_ne_nil).2) ∧
      ((toText text sender draws).1 = filledAtOnce template sender.text thought (preview text) ↔
        Piece.place .sender ∉ pieces template.toList ∨
          (¬ "{thought}".toList <:+: sender.text.toList ∧
            (¬ "{preview}".toList <:+: sender.text.toList ∨ preview text = "{preview}"))) := by
  have htemplate := pick_mem (templates (categorize text)) (templates_ne_nil (categorize text)) draws
  rcases hpick : draws.pick (templates (categorize text)) (templates_ne_nil (categorize text)) with
    ⟨template, draws'⟩
  rw [hpick] at htemplate
  have hthought := pick_mem thoughts thoughts_ne_nil draws'
  rcases hpick' : draws'.pick thoughts thoughts_ne_nil with ⟨thought, rest⟩
  rw [hpick'] at hthought
  obtain ⟨hbrace, hspace⟩ := plain_thoughts thought hthought
  have hreply : toText text sender draws =
      (filledAtOnce template (expanded sender.text thought (preview text)) thought (preview text),
        rest) := by
    unfold toText
    simp only [hpick, hpick']
    rw [fill_eq (apart_templates _ template htemplate) hbrace]
  refine ⟨template, thought, draws', rfl, htemplate, by rw [hpick'], hthought, ?_, ?_⟩
  · rw [hreply, hpick']
  · rw [hreply, ← expanded_eq_iff hspace]
    unfold filledAtOnce
    rw [← String.toList_inj, String.toList_ofList, String.toList_ofList, filled_eq_iff,
      String.toList_inj]

/-- A sender that holds the place of a thought is not greeted by its own name. -/
theorem a_thought_is_put_into_a_sender :
    ((Draws.ofList []).pick (templates (categorize "hey")) (templates_ne_nil _)).1 =
        "Hello {sender}! 👋 How can I assist you today?" ∧
      (toText "hey" ⟨"@{thought}:hs"⟩ (Draws.ofList [])).1 =
        "Hello @That's an interesting question! Let me think about that...:hs! " ++
          "👋 How can I assist you today?" ∧
      filledAtOnce "Hello {sender}! 👋 How can I assist you today?" "@{thought}:hs"
          "That's an interesting question! Let me think about that..." (preview "hey") =
        "Hello @{thought}:hs! 👋 How can I assist you today?" := by
  refine ⟨?_, ?_, ?_⟩
  · decide +kernel
  · decide +kernel
  · decide +kernel

end ChatBot.Reply
