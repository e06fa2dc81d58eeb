import CssTrim.Markup.Element
import CssTrim.Proofs.Text.Recognizer

/-!
# Where the tags of a document stand

The scan of a document goes from one piece of markup to the next.  This module
says where the start tags and attributes that it finds are written.  There are
three groups.

* What a reader leaves is a back part of the text that it was given.
* Attributes.  `attributePlaces` are the positions of the attributes of a start
  tag, and each attribute of the tag is read at one of them.
* Start tags.  `Step.Within` is what one step of the scan keeps: it goes on
  inside the text, and the tags that it reports stand there.
  `exists_tag_of_mem_events` says so of all steps, by induction over the scan.
-/

namespace CssTrim.Markup

open Text

/-! ## What readers leave -/

theorem skipSeparators_suffix (t : Text) : skipSeparators t <:+ t := by
  fun_induction skipSeparators t with
  | case1 => exact List.suffix_rfl
  | case2 c rest _ _ ih => exact ih.trans (List.suffix_cons c rest)
  | case3 => exact List.suffix_rfl
  | case4 => exact List.suffix_rfl

theorem upTo?_suffix {stop : Char → Bool} {t value rest : Text}
    (h : upTo? stop t = some (value, rest)) : rest <:+ t := by
  obtain ⟨c, -, -, rfl⟩ := upTo?_eq_some_iff.1 h
  exact (List.suffix_cons c rest).trans (List.suffix_append _ _)

theorem after?_suffix {start t rest : Text} (h : after? start t = some rest) : rest <:+ t := by
  rw [after?_eq_some_iff.1 h]
  exact List.suffix_append _ _

theorem bareValue_suffix (t : Text) : (bareValue t).2 <:+ t := List.dropWhile_suffix _

theorem readValue?_suffix {signs : Nat} {t value left : Text}
    (h : readValue? signs t = some (value, left)) : left <:+ t := by
  have hbody := trimStart_suffix t
  rw [readValue?] at h
  split at h
  · rename_i q rest heq
    split at h
    · split at h
      · rename_i found hfound
        obtain rfl := Option.some.inj h
        rw [heq] at hbody
        exact ((upTo?_suffix hfound).trans (List.suffix_cons q rest)).trans hbody
      · split at h
        · obtain ⟨-, rfl⟩ := Prod.mk.inj (Option.some.inj h)
          exact hbody
        · split at h
          · have hvalue : (bareValue ('=' :: t)).2 = left := congrArg Prod.snd (Option.some.inj h)
            rw [← hvalue, bareValue, run, List.dropWhile_cons_of_pos (by decide)]
            exact List.dropWhile_suffix _
          · cases h
    · have hvalue : (bareValue (trimStart t)).2 = left := congrArg Prod.snd (Option.some.inj h)
      rw [← hvalue]
      exact (bareValue_suffix _).trans hbody
  · obtain ⟨-, rfl⟩ := Prod.mk.inj (Option.some.inj h)
    exact List.nil_suffix

theorem assignment?_suffix {t value left : Text} (h : assignment? t = some (value, left)) :
    left <:+ t := by
  rw [assignment?] at h
  simp only at h
  split at h
  · cases h
  · exact ((readValue?_suffix h).trans (List.dropWhile_suffix _)).trans (trimStart_suffix t)

theorem attribute?_suffix {before : Char} {t left : Text} {a : Text × Text}
    (h : attribute? before t = some (a, left)) : left <:+ t := by
  unfold attribute? at h
  split at h
  · rename_i c rest
    split at h
    · have hname : rest.dropWhile continuesName <:+ c :: rest :=
        (List.dropWhile_suffix _).trans (List.suffix_cons c rest)
      simp only [run] at h
      split at h
      · rename_i value behind hvalue
        obtain ⟨-, rfl⟩ := Prod.mk.inj (Option.some.inj h)
        exact ((skipSeparators_suffix _).trans (assignment?_suffix hvalue)).trans hname
      · obtain ⟨-, rfl⟩ := Prod.mk.inj (Option.some.inj h)
        exact (skipSeparators_suffix _).trans hname
    · cases h
  · cases h

/-! ## Attributes -/

/-- The character before what is left stands in the text, or before it. -/
theorem exists_charBefore (before : Char) {t left : Text} (h : left <:+ t) :
    ∃ front, before :: t = front ++ charBefore before t left :: left := by
  obtain ⟨taken, rfl⟩ := h
  have hlength : (taken ++ left).length - left.length = taken.length := by
    rw [List.length_append]
    omega
  rw [charBefore, hlength, List.take_left]
  cases htaken : taken.getLast? with
  | none =>
    obtain rfl := List.getLast?_eq_none_iff.1 htaken
    exact ⟨[], rfl⟩
  | some c =>
    obtain ⟨front, rfl⟩ := List.getLast?_eq_some_iff.1 htaken
    exact ⟨before :: front, by simp⟩

/-- The positions at which the attributes of a tag are read, from a text behind the character
`before` on. -/
def attributePlacesFrom (before : Char) (t : Text) : List (Char × Text) :=
  match attribute? before t with
  | some (_, left) =>
    if left.length < t.length then
      (before, t) :: attributePlacesFrom (charBefore before t left) left
    else []
  | none => []
termination_by t.length

/-- The positions of the attributes of a start tag, of which the opening bracket has been read: the
character before each, and the text from there on. -/
def attributePlaces (t : Text) : List (Char × Text) :=
  let (name, behindName) := run isTagNameChar t
  let first := skipSeparators behindName
  attributePlacesFrom (charBefore (name.getLast?.getD '<') behindName first) first

theorem exists_of_mem_attributePlacesFrom {before : Char} {t : Text} {x : Char × Text}
    (h : x ∈ attributePlacesFrom before t) : ∃ front, before :: t = front ++ x.1 :: x.2 := by
  fun_induction attributePlacesFrom before t with
  | case1 before t a left hread _ ih =>
    rcases List.mem_cons.1 h with rfl | h
    · exact ⟨[], rfl⟩
    · obtain ⟨taken, htaken⟩ := exists_charBefore before (attribute?_suffix hread)
      obtain ⟨front, hfront⟩ := ih h
      exact ⟨taken ++ front, by rw [htaken, hfront, List.append_assoc]⟩
  | case2 => exact absurd h List.not_mem_nil
  | case3 => exact absurd h List.not_mem_nil

/-- Every attribute of a tag stands behind its opening bracket. -/
theorem exists_of_mem_attributePlaces {t : Text} {x : Char × Text} (h : x ∈ attributePlaces t) :
    ∃ front, '<' :: t = front ++ x.1 :: x.2 := by
  obtain ⟨front, hfront⟩ := exists_of_mem_attributePlacesFrom h
  obtain ⟨skipped, hskipped⟩ := exists_charBefore
    ((t.takeWhile isTagNameChar).getLast?.getD '<')
    (skipSeparators_suffix (t.dropWhile isTagNameChar))
  have hname : ∃ name, '<' :: t =
      name ++ (t.takeWhile isTagNameChar).getLast?.getD '<' :: t.dropWhile isTagNameChar := by
    have happ := List.takeWhile_append_dropWhile (p := isTagNameChar) (l := t)
    cases hlast : (t.takeWhile isTagNameChar).getLast? with
    | none =>
      rw [List.getLast?_eq_none_iff.1 hlast, List.nil_append] at happ
      exact ⟨[], by rw [happ]; rfl⟩
    | some c =>
      obtain ⟨name, hname⟩ := List.getLast?_eq_some_iff.1 hlast
      rw [hname] at happ
      refine ⟨'<' :: name, ?_⟩
      conv_lhs => rw [← happ]
      simp
  obtain ⟨name, hname⟩ := hname
  refine ⟨name ++ (skipped ++ front), ?_⟩
  rw [hname, hskipped, List.append_assoc, List.append_assoc]
  exact congrArg _ (congrArg _ hfront)

theorem exists_of_mem_attributes {before : Char} {t : Text} {a : Text × Text}
    (h : a ∈ (attributes before t).1) :
    ∃ x ∈ attributePlacesFrom before t, ∃ left, attribute? x.1 x.2 = some (a, left) := by
  fun_induction attributes before t with
  | case1 before t b left hread hlt ih =>
    rw [attributePlacesFrom, hread]
    simp only [hlt, if_true]
    rcases List.mem_cons.1 h with rfl | h
    · exact ⟨_, List.mem_cons_self, left, hread⟩
    · obtain ⟨x, hx, hread⟩ := ih h
      exact ⟨x, List.mem_cons_of_mem _ hx, hread⟩
  | case2 => exact absurd h List.not_mem_nil
  | case3 => exact absurd h List.not_mem_nil

theorem attributes_suffix (before : Char) (t : Text) : (attributes before t).2 <:+ t := by
  fun_induction attributes before t with
  | case1 before t a left hread _ ih => exact ih.trans (attribute?_suffix hread)
  | case2 => exact List.suffix_rfl
  | case3 => exact List.suffix_rfl

/-- Every attribute of a start tag is read at one of its positions. -/
theorem exists_of_mem_readStartTag? {t rest : Text} {tag : StartTag} {a : Text × Text}
    (h : readStartTag? t = some (.tag tag, rest)) (ha : a ∈ tag.attributes) :
    ∃ x ∈ attributePlaces t, ∃ written left,
      attribute? x.1 x.2 = some ((a.1, written), left) ∧ a.2 = resolve written := by
  unfold readStartTag? at h
  simp only [Option.map_eq_some_iff] at h
  obtain ⟨body, -, h⟩ := h
  generalize hfound : attributes _ _ = found at h
  have hresolved : a ∈ found.1.map fun b => (b.1, resolve b.2) := by
    split at h
    · cases (Prod.mk.inj h).1
    · split at h
      · obtain rfl := TagReading.tag.inj (Prod.mk.inj h).1
        exact ha
      · split at h
        · obtain rfl := TagReading.tag.inj (Prod.mk.inj h).1
          exact ha
        · cases (Prod.mk.inj h).1
  obtain ⟨b, hb, rfl⟩ := List.mem_map.1 hresolved
  rw [← hfound] at hb
  obtain ⟨x, hx, left, hread⟩ := exists_of_mem_attributes hb
  exact ⟨x, hx, b.2, left, hread, rfl⟩

theorem readStartTag?_suffix {t rest : Text} {reading : TagReading}
    (h : readStartTag? t = some (reading, rest)) : rest <:+ t := by
  unfold readStartTag? at h
  simp only [Option.map_eq_some_iff] at h
  obtain ⟨body, hbody, h⟩ := h
  have hrest : body = rest := by
    split at h
    · exact congrArg Prod.snd h
    · split at h
      · exact congrArg Prod.snd h
      · split at h
        · exact congrArg Prod.snd h
        · exact congrArg Prod.snd h
  subst hrest
  -- the end of the tag is looked for in a back part of the text
  generalize hleft : attributes _ _ = found at hbody
  have hname : t.dropWhile isTagNameChar <:+ t := List.dropWhile_suffix _
  have hattributes : found.2 <:+ t := by
    rw [← hleft]
    exact ((attributes_suffix _ _).trans (skipSeparators_suffix _)).trans hname
  have hend : (if found.1.isEmpty then
      (t.dropWhile isTagNameChar).dropWhile fun c => isBlank c || c == '/'
      else trimStart found.2) <:+ t := by
    split
    · exact (List.dropWhile_suffix _).trans hname
    · exact (trimStart_suffix _).trans hattributes
  simp only [run] at hbody
  generalize (if found.1.isEmpty then
      (t.dropWhile isTagNameChar).dropWhile fun c => isBlank c || c == '/'
      else trimStart found.2) = ending at hbody hend
  split at hbody
  · obtain rfl := Option.some.inj hbody
    exact (List.suffix_cons _ _).trans hend
  · obtain rfl := Option.some.inj hbody
    exact ((List.suffix_cons _ _).trans (List.suffix_cons _ _)).trans hend
  · cases hbody
  · split at hbody
    · cases hbody
    · obtain rfl := Option.some.inj hbody
      exact hend

/-! ## Start tags of a document -/

/-- Whether a start tag stands somewhere in a text.  Its name starts with a letter. -/
def HasTag (t : Text) (tag : StartTag) : Prop :=
  ∃ c u rest, isAsciiLetter c ∧ '<' :: c :: u <:+ t ∧
    readStartTag? (c :: u) = some (.tag tag, rest)

theorem HasTag.of_suffix {s t : Text} {tag : StartTag} (h : HasTag s tag) (hs : s <:+ t) :
    HasTag t tag := by
  obtain ⟨c, u, rest, hc, hu, hread⟩ := h
  exact ⟨c, u, rest, hc, hu.trans hs, hread⟩

/-- Whether a step of the scan stays inside a text: it goes on with a back part of it, and the start
tags that it reports stand there. -/
def Step.Within (t : Text) : Step → Prop
  | .next events _ rest => rest <:+ t ∧ ∀ tag line, .opens tag line ∈ events → HasTag t tag
  | .incomplete => True
  | .stops rest => rest <:+ t

theorem Step.Within.of_suffix {s t : Text} {p : Step} (h : p.Within s) (hs : s <:+ t) :
    p.Within t := by
  cases p with
  | next events raw rest =>
    exact ⟨h.1.trans hs, fun tag line hmem => (h.2 tag line hmem).of_suffix hs⟩
  | incomplete => trivial
  | stops rest => exact List.IsSuffix.trans h hs

/-- A step that reports no start tag need only go on inside the text. -/
theorem Step.within_next {t rest : Text} {events : List Event} {raw : Option Text}
    (hrest : rest <:+ t) (hevents : ∀ tag line, .opens tag line ∉ events) :
    (Step.next events raw rest).Within t :=
  ⟨hrest, fun tag line hmem => absurd hmem (hevents tag line)⟩

theorem afterBracket?_suffix {t rest : Text} (h : afterBracket? t = some rest) : rest <:+ t := by
  obtain ⟨found, hfound, rfl⟩ := Option.map_eq_some_iff.1 h
  exact upTo?_suffix hfound

theorem endTag_within (raw : Option Text) (t : Text) : (endTag raw t).Within t := by
  rw [endTag]
  split
  · trivial
  · rename_i rest hrest
    have hsuffix := afterBracket?_suffix hrest
    split
    · exact Step.within_next hsuffix (by simp)
    · split
      · exact Step.within_next hsuffix (by simp)
      · exact Step.within_next hsuffix (by simp)
    · exact Step.within_next hsuffix (by simp)
    · apply Step.within_next hsuffix
      intro tag line hmem
      cases hname : looseEndName? t <;> simp [hname] at hmem

theorem startTag_within {line : Nat} {c : Char} (hc : isAsciiLetter c) {t : Text} {s : Step}
    (h : startTag line (c :: t) = .ok s) : s.Within ('<' :: c :: t) := by
  rw [startTag] at h
  split at h
  · obtain rfl := Except.ok.inj h
    trivial
  · rename_i rest hread
    obtain rfl := Except.ok.inj h
    exact Step.within_next ((readStartTag?_suffix hread).trans (List.suffix_cons _ _)) (by simp)
  · cases h
  · rename_i found rest hread
    obtain rfl := Except.ok.inj h
    refine ⟨(readStartTag?_suffix hread).trans (List.suffix_cons _ _), ?_⟩
    intro tag n hmem
    obtain ⟨rfl, -⟩ := Event.opens.inj (List.mem_singleton.1 hmem)
    exact ⟨c, t, rest, hc, List.suffix_rfl, hread⟩

theorem skipTo_within {t : Text} {rest : Option Text} (h : ∀ left, rest = some left → left <:+ t) :
    (skipTo rest).Within t := by
  cases rest with
  | none => trivial
  | some left => exact Step.within_next (h left rfl) (by simp)

theorem afterComment?_suffix {t rest : Text} (h : afterComment? t = some rest) : rest <:+ t := by
  fun_induction afterComment? t with
  | case1 => cases h
  | case2 t left hleft =>
    obtain rfl := Option.some.inj h
    have hclose := (after?_suffix hleft).trans (trimStart_suffix t)
    exact hclose.trans ((List.suffix_cons '-' t).trans (List.suffix_cons '-' _))
  | case3 t _ ih => exact (ih h).trans (List.suffix_cons '-' _)
  | case4 c t _ ih => exact (ih h).trans (List.suffix_cons c t)

theorem sectionEnd?_suffix {n : Nat} {t rest : Text} (h : sectionEnd? n t = some rest) :
    rest <:+ t := by
  induction n generalizing t with
  | zero => exact after?_suffix h
  | succ n ih =>
    obtain ⟨left, hleft, h⟩ := Option.bind_eq_some_iff.1 h
    exact ((ih h).trans (trimStart_suffix left)).trans (after?_suffix hleft)

theorem afterSection?_suffix {n : Nat} {t rest : Text} (h : afterSection? n t = some rest) :
    rest <:+ t := by
  induction t with
  | nil => cases h
  | cons c t ih =>
    rw [afterSection?] at h
    split at h
    · rename_i left hleft
      obtain rfl := Option.some.inj h
      exact sectionEnd?_suffix hleft
    · exact (ih h).trans (List.suffix_cons c t)

theorem skipSection_suffix {t left : Text} (h : skipSection t = .ok (some left)) : left <:+ t := by
  unfold skipSection at h
  split at h
  · cases h
  · split at h
    · cases h
    · split at h
      · cases h
      · simp only at h
        split at h
        · exact afterSection?_suffix (Except.ok.inj h)
        · split at h
          · exact afterSection?_suffix (Except.ok.inj h)
          · cases h

theorem markup_within {line : Nat} {t : Text} {s : Step} (h : markup line t = .ok s) :
    s.Within ('<' :: t) := by
  have hcons : ∀ {u : Text}, u <:+ t → u <:+ '<' :: t := fun hu => hu.trans (List.suffix_cons _ _)
  unfold markup at h
  split at h
  · obtain rfl := Except.ok.inj h
    exact List.suffix_rfl
  · obtain rfl := Except.ok.inj h
    exact (endTag_within none _).of_suffix (hcons (List.suffix_cons _ _))
  · rename_i rest
    obtain rfl := Except.ok.inj h
    apply skipTo_within
    intro left hleft
    have hopening : rest <:+ '!' :: '-' :: '-' :: rest := ⟨['!', '-', '-'], rfl⟩
    exact hcons ((afterComment?_suffix hleft).trans hopening)
  · obtain rfl := Except.ok.inj h
    exact skipTo_within fun left hleft =>
      hcons ((afterBracket?_suffix hleft).trans (List.suffix_cons _ _))
  · rename_i rest
    cases hfound : skipSection rest with
    | error e =>
      rw [hfound] at h
      cases h
    | ok found =>
      rw [hfound] at h
      obtain rfl := Except.ok.inj h
      have hopening : rest <:+ '!' :: '[' :: rest := ⟨['!', '['], rfl⟩
      apply skipTo_within
      rintro left rfl
      exact hcons ((skipSection_suffix hfound).trans hopening)
  · obtain rfl := Except.ok.inj h
    exact skipTo_within fun left hleft =>
      hcons ((afterBracket?_suffix hleft).trans (List.suffix_cons _ _))
  · rename_i c rest _ _ _ _ _
    split at h
    · rename_i hc
      exact startTag_within hc h
    · obtain rfl := Except.ok.inj h
      exact Step.within_next (List.suffix_cons _ _) (by simp)

theorem dropSemicolon_suffix (t : Text) : dropSemicolon t <:+ t := by
  unfold dropSemicolon
  split
  · exact List.suffix_cons _ _
  · exact List.suffix_rfl

theorem numberDigits_suffix (t : Text) : (numberDigits t).2 <:+ t := by
  rw [numberDigits]
  split
  · exact (List.dropWhile_suffix _).trans (List.drop_suffix 1 t)
  · exact List.dropWhile_suffix _

theorem reference_within {t : Text} {s : Step} (h : reference t = .ok s) :
    s.Within ('&' :: t) := by
  have hcons : ∀ {u : Text}, u <:+ t → u <:+ '&' :: t := fun hu => hu.trans (List.suffix_cons _ _)
  unfold reference at h
  split at h
  · obtain rfl := Except.ok.inj h
    exact List.suffix_rfl
  · rename_i rest
    have hbroken : (Step.stops (if rest.contains ';' then rest else '&' :: '#' :: rest)).Within
        ('&' :: '#' :: rest) := by
      show (if rest.contains ';' then rest else '&' :: '#' :: rest) <:+ '&' :: '#' :: rest
      split
      · exact hcons (List.suffix_cons _ _)
      · exact List.suffix_rfl
    dsimp only at h
    split at h
    · obtain rfl := Except.ok.inj h
      exact hbroken
    · split at h
      · cases h
      · obtain rfl := Except.ok.inj h
        have hleft := (numberDigits_suffix rest).trans (hcons (List.suffix_cons '#' rest))
        exact Step.within_next ((dropSemicolon_suffix _).trans hleft) (by simp)
  · rename_i c rest _
    split at h
    · split at h
      · obtain rfl := Except.ok.inj h
        exact List.suffix_rfl
      · obtain rfl := Except.ok.inj h
        apply Step.within_next _ (by simp)
        exact (dropSemicolon_suffix _).trans
          ((List.dropWhile_suffix _).trans (hcons (List.suffix_cons c rest)))
    · obtain rfl := Except.ok.inj h
      exact Step.within_next (List.suffix_cons _ _) (by simp)

theorem findEndTag_suffix {element t found : Text} (h : findEndTag element t = some found) :
    found <:+ t := by
  induction t with
  | nil => cases h
  | cons c t ih =>
    rw [findEndTag] at h
    split at h
    · obtain rfl := Option.some.inj h
      exact List.suffix_rfl
    · exact (ih h).trans (List.suffix_cons c t)

/-- **One step of the scan stays inside the text.** -/
theorem step_within {breaks : Nat} {raw : Option Text} {t found : Text} {s : Step}
    (h : step breaks raw t = .ok (s, found)) : found <:+ t ∧ s.Within found := by
  unfold step at h
  split at h
  · rename_i element
    split at h
    · rename_i left hleft
      obtain ⟨rfl, rfl⟩ := Prod.mk.inj (Except.ok.inj h)
      exact ⟨findEndTag_suffix hleft, (endTag_within _ _).of_suffix (List.drop_suffix _ _)⟩
    · obtain ⟨rfl, rfl⟩ := Prod.mk.inj (Except.ok.inj h)
      exact ⟨List.suffix_rfl, List.suffix_rfl⟩
  · have hback := List.dropWhile_suffix (l := t) fun c => c != '<' && c != '&'
    split at h
    · obtain ⟨rfl, rfl⟩ := Prod.mk.inj (Except.ok.inj h)
      exact ⟨List.nil_suffix, List.suffix_rfl⟩
    · rename_i rest heq
      rw [heq] at hback
      cases hmarkup : markup (lineOf breaks ('<' :: rest)) rest with
      | error e =>
        rw [hmarkup] at h
        cases h
      | ok p =>
        rw [hmarkup] at h
        obtain ⟨rfl, rfl⟩ := Prod.mk.inj (Except.ok.inj h)
        exact ⟨hback, markup_within hmarkup⟩
    · rename_i c rest hne heq
      obtain ⟨-, -, hc⟩ := dropWhile_eq_cons heq
      rw [heq] at hback
      obtain rfl : c = '&' := by
        by_contra hamp
        have hopen : c = '<' := by simpa [hamp] using hc
        exact hne hopen
      cases hreference : reference rest with
      | error e =>
        rw [hreference] at h
        cases h
      | ok p =>
        rw [hreference] at h
        obtain ⟨rfl, rfl⟩ := Prod.mk.inj (Except.ok.inj h)
        exact ⟨hback, reference_within hreference⟩

theorem skipBroken_suffix (t : Text) : skipBroken t <:+ t := by
  have hdrop : t.drop 1 <:+ t := List.drop_suffix 1 t
  unfold skipBroken
  split
  · rename_i rest hrest
    exact (afterBracket?_suffix hrest).trans hdrop
  · split
    · exact hdrop
    · exact (List.dropWhile_suffix _).trans hdrop

/-- The start tags that the scan reports stand in the text. -/
theorem hasTag_of_mem_eventsFrom {breaks : Nat} {last : Bool} {raw : Option Text} {t : Text}
    {events : List Event} (h : eventsFrom breaks last raw t = .ok events) {tag : StartTag}
    {line : Nat} (hmem : .opens tag line ∈ events) : HasTag t tag := by
  fun_induction eventsFrom breaks last raw t generalizing events with
  | case1 => cases h
  | case2 last raw t found inside rest _ hstep _ ih =>
    obtain ⟨hback, hrest, htags⟩ := step_within hstep
    obtain ⟨more, hmore, rfl⟩ : ∃ more, eventsFrom breaks last inside rest = .ok more ∧
        found ++ more = events := by
      cases hmore : eventsFrom breaks last inside rest with
      | error e =>
        rw [hmore] at h
        cases h
      | ok more =>
        rw [hmore] at h
        exact ⟨more, rfl, Except.ok.inj h⟩
    rcases List.mem_append.1 hmem with hmem | hmem
    · exact (htags tag line hmem).of_suffix hback
    · exact (ih hmore hmem).of_suffix (hrest.trans hback)
  | case3 last raw t found inside rest _ hstep =>
    obtain ⟨hback, -, htags⟩ := step_within hstep
    obtain rfl := Except.ok.inj h
    exact (htags tag line hmem).of_suffix hback
  | case5 last raw t rest _ hstep _ _ ih =>
    obtain ⟨hback, hrest⟩ := step_within hstep
    exact (ih h hmem).of_suffix (List.IsSuffix.trans hrest hback)
  | case7 raw t found hstep _ ih =>
    exact (ih h hmem).of_suffix ((skipBroken_suffix found).trans (step_within hstep).1)
  | case9 last raw t found hstep _ _ ih =>
    exact (ih h hmem).of_suffix (step_within hstep).1
  | case4 | case6 | case8 | case10 =>
    obtain rfl := Except.ok.inj h
    exact absurd hmem List.not_mem_nil

/-- The tags inside the body of a document are among its events. -/
theorem mem_of_mem_insideOf {depth : Nat} {s : OpenElements} {events : List Event} {tag : StartTag}
    {line : Nat} (h : (tag, line) ∈ insideOf depth s events) : .opens tag line ∈ events := by
  induction events generalizing s with
  | nil => exact absurd h List.not_mem_nil
  | cons e events ih =>
    unfold insideOf at h
    split at h
    · exact absurd h List.not_mem_nil
    · cases e with
      | closes name => exact List.mem_cons_of_mem _ (ih h)
      | opens found n =>
        rcases List.mem_cons.1 h with heq | h
        · obtain ⟨rfl, rfl⟩ := Prod.mk.inj heq
          exact List.mem_cons_self
        · exact List.mem_cons_of_mem _ (ih h)

theorem mem_of_mem_bodyOf {s : OpenElements} {events : List Event} {body : Body}
    (h : bodyOf s events = some body) {tag : StartTag} {line : Nat}
    (hmem : (tag, line) ∈ body.tags) : .opens tag line ∈ events := by
  induction events generalizing s with
  | nil => cases h
  | cons e events ih =>
    unfold bodyOf at h
    cases e with
    | closes name => exact List.mem_cons_of_mem _ (ih h)
    | opens found n =>
      simp only at h
      split at h
      · obtain rfl := Option.some.inj h
        exact List.mem_cons_of_mem _ (mem_of_mem_insideOf hmem)
      · exact List.mem_cons_of_mem _ (ih h)

/-- Whether a way to read pages takes what it gives from the start tags of a page. -/
def PageReader.TakesTags (read : PageReader) : Prop :=
  ∀ page body, read page = .ok (some body) → ∃ events, Markup.events page = .ok events ∧
    ∀ tag line, (tag, line) ∈ body.tags → .opens tag line ∈ events

theorem takesTags_readPage : PageReader.TakesTags readPage := by
  intro page body h
  rw [readPage] at h
  cases hevents : Markup.events page with
  | error rejection =>
    rw [hevents] at h
    cases h
  | ok events =>
    rw [hevents] at h
    exact ⟨events, rfl, fun tag line => mem_of_mem_bodyOf (Except.ok.inj h)⟩

/-- **Where the attributes of a document stand.**  Every attribute of a start tag of a document is
read at one of the positions of attributes behind an opening bracket and a letter. -/
theorem exists_place_of_mem_events {document : Text} {events : List Event}
    (h : Markup.events document = .ok events) {tag : StartTag} {line : Nat}
    (hmem : .opens tag line ∈ events) {a : Text × Text} (ha : a ∈ tag.attributes) :
    ∃ c u, isAsciiLetter c ∧ '<' :: c :: u <:+ document ∧
      ∃ x ∈ attributePlaces (c :: u), ∃ written left,
        attribute? x.1 x.2 = some ((a.1, written), left) ∧ a.2 = resolve written := by
  obtain ⟨c, u, rest, hc, hu, hread⟩ := hasTag_of_mem_eventsFrom h hmem
  exact ⟨c, u, hc, hu, exists_of_mem_readStartTag? hread ha⟩

end CssTrim.Markup
