import CssTrim.Proofs.Classify.UsedClass
import CssTrim.Proofs.Critical
import CssTrim.Proofs.Markup.Tag
import CssTrim.Proofs.Text.Words
import CssTrim.Proofs.Usage.Mention
import CssTrim.Proofs.Usage.Phrase

/-!
# Classes and ids, read twice

The scan of a page reads its tags.  The usage of a document looks for phrases.  Do
both read the same classes and ids?  There are four groups.

* Values.  Where an attribute is written in lower case, with one equals sign, in
  quotes and without references, both readings give its value as it is written.
* Words.  A class list without braces is nothing but words.
* Documents that are `WrittenPlainly`.  The search finds every class and every id
  that a tag has.
* `mem_usage_of_scan` puts them together, for every way to read pages by their
  tags.  Other ways to write an attribute are missed, as
  `mem_usage_of_scan_capitals` shows, and the rules for it are lost.
-/

namespace CssTrim

namespace Usage

open Text

/-! ## Values -/

/-- The value of an attribute that is written as its name, one equals sign and a value in quotes. -/
def quotedValue? (name t : Text) : Option Text :=
  (after? name t).bind fun behind =>
    (equals? behind).bind fun rest => (between? quotes rest).map (·.1)

theorem quotedValue?_eq_some_iff {name t value : Text} :
    quotedValue? name t = some value ↔
      ∃ behind rest left, t = name ++ behind ∧ equals? behind = some rest ∧
        between? quotes rest = some (value, left) := by
  simp only [quotedValue?, Option.bind_eq_some_iff, Option.map_eq_some_iff, after?_eq_some_iff]
  constructor
  · rintro ⟨behind, rfl, rest, hrest, ⟨value, left⟩, hvalue, rfl⟩
    exact ⟨behind, rest, left, rfl, hrest, hvalue⟩
  · rintro ⟨behind, rest, left, rfl, hrest, hvalue⟩
    exact ⟨behind, rfl, rest, hrest, (value, left), hvalue, rfl⟩

/-- A value in quotes behind one equals sign is the value of the assignment. -/
theorem assignment?_of_between? {behind rest value left : Text} (hrest : equals? behind = some rest)
    (hvalue : between? quotes rest = some (value, left)) :
    Markup.assignment? behind = some (value, left) := by
  obtain ⟨w, r, hw, rfl, rfl⟩ := equals?_eq_some_iff.1 hrest
  obtain ⟨q, hq, hmem, hquoted⟩ := between?_eq_some_iff.1 hvalue
  obtain ⟨w', hw', hr⟩ := trimStart_append r
  rw [hquoted] at hr
  have hall : quotes.all (fun q => isQuote q && q != '=') = true := by decide
  have hquote : isQuote q = true ∧ (q == '=') = false := by
    simpa using List.all_eq_true.1 hall q hq
  have hsign : ∀ d, isBlank d = true → (d == '=') = false := by
    intro d hd
    rw [beq_eq_false_iff_ne]
    rintro rfl
    exact absurd hd (by decide)
  have hone : run (· == '=') ('=' :: r) = (['='], r) := by
    have hnone := run_blank_append hsign hquote.2 hw' (value ++ q :: left)
    rw [← hr, run, Prod.mk.injEq] at hnone
    rw [run, List.takeWhile_cons_of_pos (by simp), List.dropWhile_cons_of_pos (by simp), hnone.1,
      hnone.2]
  have hupTo : upTo? (· == q) (value ++ q :: left) = some (value, left) := by
    refine upTo?_eq_some_iff.2 ⟨q, beq_self_eq_true q, ?_, rfl⟩
    intro d hd
    rw [beq_eq_false_iff_ne]
    rintro rfl
    exact hmem hd
  rw [Markup.assignment?, trimStart_append_of_isBlankText hw, trimStart_cons (by decide), hone]
  simp only [List.isEmpty_cons, Bool.false_eq_true, if_false, Markup.readValue?, hquoted,
    hquote.1, if_true, hupTo]

theorem resolve_eq_self {t : Text} (h : '&' ∉ t) : Markup.resolve t = t := by
  induction t with
  | nil => rfl
  | cons c t ih =>
    rw [List.mem_cons, not_or] at h
    rw [Markup.resolve, Markup.resolveFrom, if_neg (Ne.symm h.1)]
    exact congrArg (c :: ·) (ih h.2)

/-- The tag reader takes the same value in quotes as the search. -/
theorem value_eq_of_quotedValue? {before c : Char} {name more t value written left : Text}
    (hmore : ∀ d ∈ more, Markup.continuesName d = true)
    (hwritten : quotedValue? (c :: more) t = some written)
    (hread : Markup.attribute? before t = some ((name, value), left)) : value = written := by
  obtain ⟨behind, rest, after, rfl, hrest, hvalue⟩ := quotedValue?_eq_some_iff.1 hwritten
  have hassign := assignment?_of_between? hrest hvalue
  obtain ⟨w, r, hw, rfl, -⟩ := equals?_eq_some_iff.1 hrest
  have hblank : ∀ d, isBlank d = true → Markup.continuesName d = false := by
    intro d hd
    rw [Markup.continuesName, Markup.startsName, hd]
    rfl
  have hend := run_blank_append hblank (by decide : Markup.continuesName '=' = false) hw r
  rw [run, Prod.mk.injEq] at hend
  have hname : run Markup.continuesName (more ++ (w ++ '=' :: r)) = (more, w ++ '=' :: r) := by
    rw [run, List.takeWhile_append_of_pos hmore, List.dropWhile_append_of_pos hmore, hend.1, hend.2,
      List.append_nil]
  rw [List.cons_append] at hread
  unfold Markup.attribute? at hread
  rw [Option.ite_none_right_eq_some, hname] at hread
  simp only [hassign, Option.some.injEq, Prod.mk.injEq] at hread
  exact hread.2.1.2.symm

/-! ## Words -/

/-- Without braces a class list is nothing but words. -/
theorem classNames_eq_words {value : Text} (hopen : '\x7b' ∉ value) (hclose : '\x7d' ∉ value) :
    classNames value = words value := by
  have hhole : ∀ before u, u <:+ value → hole before u = none := by
    intro before u hu
    have hnone : after? ['$', '\x7b'] u = none := by
      rw [Option.eq_none_iff_forall_ne_some]
      intro rest hrest
      rw [after?_eq_some_iff.1 hrest] at hu
      exact hopen (hu.subset (by simp))
    rw [hole, hnone]
    rfl
  have hstray : ∀ w ∈ strayBraces, '\x7b' ∈ w ∨ '\x7d' ∈ w := by decide
  rw [classNames, Recognizer.replaceAll_eq_self hhole, List.filter_eq_self]
  intro w hw
  suffices hname : w ∉ strayBraces by simpa using hname
  intro hmem
  have hpieces : ∀ c ∈ w, c ∈ value := fun c hc => (mem_of_mem_splitOn (List.mem_filter.1 hw).1 hc).1
  rcases hstray w hmem with hc | hc
  · exact hopen (hpieces _ hc)
  · exact hclose (hpieces _ hc)

/-! ## Documents that are written plainly -/

/-- The names of the attributes that are read. -/
def attributeNames : List Text := ["class".toList, "id".toList]

/-- What the two readings take in different ways: references, the braces of a template in a class
list, and quotes inside an id. -/
def specialSigns (name : Text) : Text :=
  if name = "class".toList then ['&', '\x7b', '\x7d'] else '&' :: quotes

/-- Whether both readings take the value of an attribute as it is written. -/
def isPlainValue (name value : Text) : Bool := value.all (!(specialSigns name).contains ·)

theorem not_mem_of_isPlainValue {name value : Text} (h : isPlainValue name value = true) {c : Char}
    (hc : c ∈ specialSigns name) : c ∉ value := by
  intro hmem
  have hplain := List.all_eq_true.1 h c hmem
  rw [List.contains_iff_mem.2 hc] at hplain
  cases hplain

theorem and_mem_specialSigns (name : Text) : '&' ∈ specialSigns name := by
  rw [specialSigns]
  split
  · exact List.mem_cons_self
  · exact List.mem_cons_self

/-- Whether the attribute at a position, if it is a class or an id with a value, is written in lower
case, with one equals sign and a plain value in quotes. -/
def isWrittenPlainly (before : Char) (t : Text) : Bool :=
  match Markup.attribute? before t with
  | some ((name, value), _) =>
    (Markup.resolve value).isEmpty || !attributeNames.contains name ||
      (quotedValue? name t).any (isPlainValue name)
  | none => true

/-- A document with plain class and id attributes. -/
structure WrittenPlainly (t : Text) : Prop where
  /-- The attributes of every start tag are written plainly. -/
  attributes : ∀ x ∈ places t, x.1 = some '<' → x.2.head?.any isAsciiLetter →
    ∀ y ∈ Markup.attributePlaces x.2, isWrittenPlainly y.1 y.2
  /-- No phrase that looks like a class attribute holds an equals sign. -/
  classes : ∀ x ∈ places t, ∀ p ∈ classAttribute x.1 x.2, '=' ∉ p.1
  /-- No phrase that looks like an id attribute holds an equals sign. -/
  ids : ∀ x ∈ places t, ∀ p ∈ idAttribute x.1 x.2, '=' ∉ p.1

/-- Whether an attribute is written plainly at a position. -/
structure WrittenAt (t name value : Text) (before : Char) (u : Text) : Prop where
  place : (some before, u) ∈ places t
  precedes : Markup.precedesName before = true
  quoted : quotedValue? name u = some value
  plain : isPlainValue name value = true

/-- An attribute is read behind a character that may stand before one. -/
theorem precedesName_of_attribute? {before : Char} {t left : Text} {a : Text × Text}
    (h : Markup.attribute? before t = some (a, left)) :
    Markup.precedesName before = true ∧ t ≠ [] := by
  unfold Markup.attribute? at h
  split at h
  · rw [Option.ite_none_right_eq_some, Bool.and_eq_true] at h
    exact ⟨h.1.1, List.cons_ne_nil _ _⟩
  · cases h

/-- A class or an id of a start tag, with a value, is written plainly at some position. -/
theorem exists_writtenAt {t : Text} (hplain : WrittenPlainly t) {events : List Markup.Event}
    (h : Markup.events t = .ok events) {tag : Markup.StartTag} {line : Nat}
    (hmem : .opens tag line ∈ events) {name value : Text} (hname : name ∈ attributeNames)
    (ha : (name, value) ∈ tag.attributes) (hne : value ≠ []) :
    ∃ before u, WrittenAt t name value before u := by
  obtain ⟨c, u, hc, ⟨front, hfront⟩, ⟨before, v⟩, hv, raw, left, hread, hresolved⟩ :=
    Markup.exists_place_of_mem_events h hmem ha
  dsimp only at hread hresolved
  have hbracket : (some '<', c :: u) ∈ places t :=
    mem_places_iff.2 ⟨List.cons_ne_nil c u, front ++ ['<'], by simp [← hfront], by simp⟩
  obtain ⟨inside, hinside⟩ := Markup.exists_of_mem_attributePlaces hv
  obtain ⟨hprecedes, hsome⟩ := precedesName_of_attribute? hread
  have hplace : (some before, v) ∈ places t :=
    mem_places_iff.2
      ⟨hsome, front ++ (inside ++ [before]), by simp [← hfront, hinside], by simp⟩
  have hwritten := hplain.attributes _ hbracket rfl hc _ hv
  have hlisted : attributeNames.contains name = true := List.contains_iff_mem.2 hname
  rw [isWrittenPlainly, hread] at hwritten
  simp only [← hresolved, List.isEmpty_eq_false_iff.2 hne, hlisted, Bool.not_true, Bool.false_or,
    Option.any_eq_true] at hwritten
  obtain ⟨written, hquoted, hvalue⟩ := hwritten
  obtain rfl : raw = written := by
    rcases List.mem_cons.1 hname with rfl | hname
    · exact value_eq_of_quotedValue? (List.all_eq_true.1 (by decide)) hquoted hread
    · obtain rfl := List.mem_singleton.1 hname
      exact value_eq_of_quotedValue? (List.all_eq_true.1 (by decide)) hquoted hread
  have hreference := not_mem_of_isPlainValue hvalue (and_mem_specialSigns name)
  obtain rfl : value = raw := by rw [hresolved, resolve_eq_self hreference]
  exact ⟨before, v, hplace, hprecedes, hquoted, hvalue⟩

/-- A character before an attribute may stand before a phrase. -/
theorem startsAttribute_of_precedesName {c : Char} (h : Markup.precedesName c = true) :
    (startsAttribute (some c) && some c != some '.') = true := by
  have hne : ∀ d, Markup.precedesName d = false → c ≠ d := by
    rintro d hd rfl
    rw [h] at hd
    cases hd
  have hword : isWordChar c = false := by
    rw [Markup.precedesName, Bool.or_eq_true, Bool.or_eq_true, isQuote, Bool.or_eq_true, beq_iff_eq,
      beq_iff_eq, beq_iff_eq] at h
    rcases h with ((rfl | rfl) | hblank) | rfl
    · decide
    · decide
    · exact isWordChar_of_isBlank hblank
    · decide
  have hcolon := hne ':' (by decide)
  have hhyphen := hne '-' (by decide)
  have hdot := hne '.' (by decide)
  simp [startsAttribute, hword, hcolon, hhyphen, hdot]

/-- The search finds a class list that is written plainly. -/
theorem mem_findAll_classAttribute {t value u : Text} {before : Char}
    (hplain : ∀ x ∈ places t, ∀ p ∈ classAttribute x.1 x.2, '=' ∉ p.1)
    (h : WrittenAt t "class".toList value before u) : value ∈ classAttribute.findAll t := by
  obtain ⟨behind, rest, left, rfl, hrest, hvalue⟩ := quotedValue?_eq_some_iff.1 h.quoted
  have hstarts := startsAttribute_of_precedesName h.precedes
  rw [Bool.and_eq_true] at hstarts
  have hword := List.all_eq_true.1 (by decide : "class".toList.all isWordChar = true)
  have hlong : after? "className".toList ("class".toList ++ behind) = none := by
    rw [Option.eq_none_iff_forall_ne_some]
    intro long hlong
    obtain ⟨w, r, hw, rfl, -⟩ := equals?_eq_some_iff.1 hrest
    have hboth := after?_eq_some_iff.1 hlong
    have hname : "className".toList = "class".toList ++ "Name".toList := by decide
    rw [hname, List.append_assoc] at hboth
    have heq := List.append_cancel_left hboth
    cases w with
    | nil => exact absurd (List.cons.inj heq).1 (by decide)
    | cons d w =>
      have hd : d = 'N' := (List.cons.inj heq).1
      rw [isBlankText_cons, hd, Bool.and_eq_true] at hw
      exact absurd hw.1 (by decide)
  have hread : classAttribute (some before) ("class".toList ++ behind) = some (value, left) := by
    have hshort : after? "class".toList ("class".toList ++ behind) = some behind :=
      after?_eq_some_iff.2 rfl
    have hquoted := between?_of_subset (fun _ => mem_allQuotes_of_mem_quotes) hvalue
    rw [classAttribute_eq, if_pos hstarts.1, oneOf?, List.findSome?_cons, hlong,
      List.findSome?_cons, hshort]
    simp only [Option.bind_some, hrest, hquoted]
  exact mem_findAll_of_readsValues readsValues_classAttribute hplain h.place hstarts.1 hword
    (by decide) hrest hread

/-- The search finds an id that is written plainly. -/
theorem mem_findAll_idAttribute {t value u : Text} {before : Char}
    (hplain : ∀ x ∈ places t, ∀ p ∈ idAttribute x.1 x.2, '=' ∉ p.1)
    (h : WrittenAt t "id".toList value before u) : value ∈ idAttribute.findAll t := by
  obtain ⟨behind, rest, left, rfl, hrest, hvalue⟩ := quotedValue?_eq_some_iff.1 h.quoted
  have hstarts := startsAttribute_of_precedesName h.precedes
  have hword := List.all_eq_true.1 (by decide : "id".toList.all isWordChar = true)
  have hread : idAttribute (some before) ("id".toList ++ behind) = some (value, left) := by
    have hafter : after? "id".toList ("id".toList ++ behind) = some behind :=
      after?_eq_some_iff.2 rfl
    obtain ⟨q, hq, -, hquoted⟩ := between?_eq_some_iff.1 hvalue
    have hclear : ∀ q ∈ value, q ∉ quotes := fun q hmem hquote =>
      not_mem_of_isPlainValue h.plain (List.mem_cons_of_mem '&' hquote) hmem
    have hbetween : plainBetween? quotes rest = some (value, left) :=
      plainBetween?_eq_some_iff.2 ⟨q, hq, hclear, hquoted⟩
    rw [idAttribute_eq, if_pos hstarts, hafter]
    simp only [Option.bind_some, hrest, hbetween]
  rw [Bool.and_eq_true] at hstarts
  exact mem_findAll_of_readsValues readsValues_idAttribute hplain h.place hstarts.1 hword
    (by decide) hrest hread

/-! ## Elements -/

theorem mem_attributes_of_attribute? {tag : Markup.StartTag} {name value : Text}
    (h : tag.attribute? name = some value) : (name, value) ∈ tag.attributes := by
  obtain ⟨⟨found, value⟩, hfound, rfl⟩ := Option.map_eq_some_iff.1 h
  have hname := List.find?_some hfound
  obtain rfl : found = name := beq_iff_eq.1 hname
  exact List.mem_reverse.1 (List.mem_of_find?_eq_some hfound)

/-- The words of a class list that is written plainly are mentioned. -/
theorem mem_classes_of_writtenAt {t value u : Text} {before : Char} (hplain : WrittenPlainly t)
    (h : WrittenAt t "class".toList value before u) {c : Text} (hc : c ∈ words value) :
    c ∈ (ofDocument .generic t).classes := by
  have hopen := not_mem_of_isPlainValue h.plain (by decide : '\x7b' ∈ specialSigns "class".toList)
  have hclose := not_mem_of_isPlainValue h.plain (by decide : '\x7d' ∈ specialSigns "class".toList)
  rw [← classNames_eq_words hopen hclose] at hc
  have hattribute : c ∈ attributeClasses t :=
    List.mem_append_left _
      (List.mem_flatMap.2 ⟨value, mem_findAll_classAttribute hplain.classes h, hc⟩)
  have hcommon : c ∈ commonClasses t := List.mem_append_left _ hattribute
  exact mem_classes_ofMentions (List.mem_append_left _ (List.mem_map_of_mem hcommon))

/-- An id that is written plainly is mentioned, unless it is blank. -/
theorem mem_ids_of_writtenAt {t value u : Text} {before : Char} (hplain : WrittenPlainly t)
    (h : WrittenAt t "id".toList value before u) (hblank : (trim value).isEmpty = false) :
    trim value ∈ (ofDocument .generic t).ids := by
  have hfound : trim value ∈ (idAttribute.findAll t).map trim :=
    List.mem_map_of_mem (mem_findAll_idAttribute hplain.ids h)
  have hattribute : trim value ∈ attributeIds t :=
    List.mem_filter.2 ⟨hfound, by rw [hblank, Bool.not_false]⟩
  have hmarkup : .id (trim value) ∈ markupMentions t :=
    List.mem_append_left _
      (List.mem_append_left _ (List.mem_append_left _ (List.mem_map_of_mem hattribute)))
  exact mem_ids_ofMentions (List.mem_append_right _ (List.mem_append_left _ hmarkup))

/-- The classes of an element are in the usage of a page that is written plainly. -/
theorem mem_classes_of_mem_ofTag {t : Text} (hplain : WrittenPlainly t) {events : List Markup.Event}
    (h : Markup.events t = .ok events) {tag : Markup.StartTag} {line : Nat}
    (hmem : .opens tag line ∈ events) {c : Text}
    (hc : c ∈ (Critical.Element.ofTag tag line).classes) :
    c ∈ (ofDocument .generic t).classes := by
  cases hvalue : tag.attribute? "class".toList with
  | none =>
    simp only [Critical.Element.ofTag, hvalue, Option.getD_none] at hc
    exact absurd hc List.not_mem_nil
  | some value =>
    simp only [Critical.Element.ofTag, hvalue, Option.getD_some] at hc
    have hne : value ≠ [] := by
      rintro rfl
      exact absurd hc List.not_mem_nil
    obtain ⟨before, u, hwritten⟩ :=
      exists_writtenAt hplain h hmem (by decide) (mem_attributes_of_attribute? hvalue) hne
    exact mem_classes_of_writtenAt hplain hwritten hc

/-- The id of an element is in the usage of a page that is written plainly. -/
theorem mem_ids_of_mem_ofTag {t : Text} (hplain : WrittenPlainly t) {events : List Markup.Event}
    (h : Markup.events t = .ok events) {tag : Markup.StartTag} {line : Nat}
    (hmem : .opens tag line ∈ events) {i : Text}
    (hi : (Critical.Element.ofTag tag line).id = some i) :
    i ∈ (ofDocument .generic t).ids := by
  obtain ⟨hid, hsome⟩ := Option.filter_eq_some_iff.1 hi
  obtain ⟨value, hvalue, rfl⟩ := Option.map_eq_some_iff.1 hid
  have hblank : (trim value).isEmpty = false := by simpa using hsome
  have hne : value ≠ [] := by
    rintro rfl
    exact absurd hblank (by decide)
  obtain ⟨before, u, hwritten⟩ :=
    exists_writtenAt hplain h hmem (by decide) (mem_attributes_of_attribute? hvalue) hne
  exact mem_ids_of_writtenAt hplain hwritten hblank

end Usage

/-! ## Rules for an element -/

/-- Whether a simple selector is a class or the id of an element. -/
def Critical.Element.IsNamedBy (e : Element) : SimpleSelector → Prop
  | .className c => c ∈ e.classes
  | .id i => e.id = some i
  | .tag _ | .attr _ | .pseudo _ => False

namespace Usage

/-- **Both readings see the same classes and ids.**  Let pages be read by their tags, in whatever
way.  On a page that is written plainly the usage has every class and the id of every element that
the scan reports.  So no rule for such a class or id is lost under the default policy, whatever
at-rules stand around it. -/
theorem mem_usage_of_scan {read : Markup.PageReader} (hread : read.TakesTags) {window : Int}
    {page : Text} {elements : List Critical.Element}
    (hscan : Critical.scan read window page = .ok elements) (hplain : WrittenPlainly page)
    {e : Critical.Element} (he : e ∈ elements) :
    (∀ c ∈ e.classes, c ∈ (ofDocument .generic page).classes) ∧
      (∀ i, e.id = some i → i ∈ (ofDocument .generic page).ids) ∧
        ∀ css, ∀ b₀ ∈ Block.segment css, ∀ b, Relation.ReflTransGen (Policy.Enters {}) b₀ b →
          b.isAtRule = false → ∀ s ∈ Selector.alternatives b.selectors,
            ∀ x ∈ Selector.simples s, e.IsNamedBy x →
              b₀ ∈ (Judge.filter { usage := ofDocument .generic page, policy := {} }
                (Block.segment css)).retained := by
  obtain ⟨body, tag, line, hbody, htag, rfl⟩ := Critical.exists_of_mem_scan hscan he
  obtain ⟨events, hevents, htags⟩ := hread page body hbody
  have hmem := htags tag line htag
  have hclasses := fun c => mem_classes_of_mem_ofTag (c := c) hplain hevents hmem
  have hid := fun i => mem_ids_of_mem_ofTag (i := i) hplain hevents hmem
  refine ⟨hclasses, hid, ?_⟩
  intro css b₀ hb₀ b hchain hstyle s hs x hx hnames
  have hhas : (ofDocument .generic page).has x = true := by
    cases x with
    | className c => exact has_className_iff.2 (.inl (hclasses c hnames))
    | id i => exact has_id_iff.2 (hid i hnames)
    | tag | attr | pseudo => exact hnames.elim
  have hlisted : Policy.isBlocklisted {} s = false := by
    simp [Policy.isBlocklisted, EntryList.covers]
  have hrule := Judge.keep_classify_of_has hstyle hs hlisted hx hhas
  have hkeep := Judge.keep_classify_of_chain (Block.kind_of_mem_segment hb₀) hchain hrule
  exact Judge.mem_retained_of_keep hb₀ hkeep

/-- A list of two classes and an id, in either kind of quotes, and a rule for the id. -/
theorem mem_usage_of_scan_quoted :
    let page : Text := "<body><p class=\x22a b\x22 id = 'c'>".toList
    let e : Critical.Element :=
      { tag := ['p'], classes := ["a".toList, "b".toList], id := some "c".toList, line := 1 }
    let rule : Block :=
      { selectors := "em, #c i".toList, body := "\x7b\x7d".toList,
        condition := "em, #c i".toList, source := "em, #c i\x7b\x7d".toList }
    Critical.scan Markup.readPage 50 page = .ok [e] ∧ WrittenPlainly page ∧
      "a".toList ∈ (ofDocument .generic page).classes ∧
        "b".toList ∈ (ofDocument .generic page).classes ∧
          "c".toList ∈ (ofDocument .generic page).ids ∧
            rule ∈ (Judge.filter { usage := ofDocument .generic page, policy := {} }
              (Block.segment rule.source)).retained := by
  intro page e rule
  have hscan : Critical.scan Markup.readPage 50 page = .ok [e] := by decide +kernel
  have hplain : WrittenPlainly page := ⟨by decide +kernel, by decide +kernel, by decide +kernel⟩
  have hrule : rule ∈ Block.segment rule.source := by decide +kernel
  have hs : "#c i".toList ∈ Selector.alternatives rule.selectors := by decide +kernel
  have hx : .id "c".toList ∈ Selector.simples "#c i".toList := by decide +kernel
  obtain ⟨hclasses, hid, hkept⟩ := mem_usage_of_scan Markup.takesTags_readPage hscan hplain
    (List.mem_singleton_self e)
  have ha := hclasses "a".toList (by decide)
  have hb := hclasses "b".toList (by decide)
  have hretained := hkept rule.source rule hrule rule .refl rfl _ hs _ hx rfl
  exact ⟨hscan, hplain, ha, hb, hid "c".toList rfl, hretained⟩

/-- The scan reads names in capital letters, and the search does not.  The rules for the class and
the id of the element are lost. -/
theorem mem_usage_of_scan_capitals :
    let page : Text := "<body><p CLASS=\x22a\x22 ID=\x22b\x22>".toList
    let u := ofDocument .generic page
    Critical.scan Markup.readPage 50 page =
        .ok [{ tag := ['p'], classes := ["a".toList], id := some "b".toList, line := 1 }] ∧
      u.classes = ∅ ∧ u.ids = ∅ ∧
        (Judge.filter { usage := u, policy := {} }
          (Block.segment ".a\x7bx:y\x7d#b\x7bx:y\x7d".toList)).retained = [] := by
  intro page u
  have hu : u =
      { tags := .ofList ["body".toList, ['p']]
        attributes := .ofList ["[class]".toList, "[id]".toList] } := by
    decide +kernel
  rw [hu]
  decide +kernel

end Usage

end CssTrim
