import Mathlib.Data.List.TakeDrop
import Mathlib.Data.List.TakeWhile
import SimDepot.Http.Exchange

/-!
# Addresses that differ in their last segment

A client makes the addresses of its calls from one endpoint, which may be any text, and a path for
each call. Where two paths differ in their last segment only, the addresses are read the same way:
the segment comes to stand at the end of the path, or of the query or the fragment where the
endpoint has begun one (`Url.Part.after`), with the characters encoded that the part cannot hold.
`Url.exists_ofText?_segment` says so, and `HttpRequest.exists_build_segment` what it means for
requests: those that can be built go to addresses with the same front.
-/

namespace SimDepot

namespace Url

/-! ## Segments -/

/-- A text that is one segment of a path, and the last one where it is behind a slash at the end of
an address. -/
structure IsSegment (w : List Char) : Prop where
  /-- It is not empty. -/
  ne_nil : w ≠ []
  /-- It has nothing that ends a segment, and nothing that does not count in an address. -/
  whole : ∀ c ∈ w, c ∉ ['/', '\\', '?', '#', '\t', '\n', '\r']
  /-- Its end is not taken for padding around the address. -/
  unpadded : ∀ c ∈ w.getLast?, isPadding c = false
  /-- It does not stand for the place it is in. -/
  not_dot : isDot (Percent.encode Percent.inPath w) = false
  /-- It does not stand for the place above. -/
  not_doubleDot : isDoubleDot (Percent.encode Percent.inPath w) = false

variable {c : Char} {w s e : List Char}

theorem IsSegment.not_mem (hw : IsSegment w)
    (hc : c ∈ ['/', '\\', '?', '#', '\t', '\n', '\r']) : c ∉ w := fun hmem => hw.whole c hmem hc

theorem encode_append (allowed : Char → Bool) (e r : List Char) :
    Percent.encode allowed (e ++ r) = Percent.encode allowed e ++ Percent.encode allowed r :=
  List.flatMap_append

/-! ## Where a text is cut -/

theorem splitAt_of_not_mem (hc : c ∉ e) : splitAt c e = (e, []) := by
  have hother : ∀ d ∈ e, (d != c) = true := fun d hd => bne_iff_ne.2 fun heq => hc (heq ▸ hd)
  rw [splitAt, List.span_eq_takeWhile_dropWhile, List.takeWhile_eq_self_iff.2 hother,
    List.dropWhile_eq_nil_iff.2 hother]

theorem splitAt_append_cons (hc : c ∉ e) (r : List Char) :
    splitAt c (e ++ c :: r) = (e, c :: r) := by
  have hother : ∀ d ∈ e, (d != c) = true := fun d hd => bne_iff_ne.2 fun heq => hc (heq ▸ hd)
  rw [splitAt, List.span_eq_takeWhile_dropWhile, List.takeWhile_append_of_pos hother,
    List.dropWhile_append_of_pos hother]
  simp

/-- The text at the front of an address without the padding before it and without what does not
count. -/
def stripFront (e : List Char) : List Char :=
  (e.dropWhile isPadding).filter fun c => c != '\t' && c != '\n' && c != '\r'

/-- What does not begin or end with padding, and has nothing in it that does not count, is kept. -/
theorem strip_append {tail : List Char} (hfirst : ∃ c ∈ tail.head?, isPadding c = false)
    (hlast : ∀ c ∈ tail.getLast?, isPadding c = false)
    (hinside : ∀ c ∈ tail, c ∉ ['\t', '\n', '\r']) :
    strip (e ++ tail) = stripFront e ++ tail := by
  obtain ⟨d, hd, hpadding⟩ := hfirst
  obtain ⟨rest, rfl⟩ := List.head?_eq_some_iff.1 hd
  have hfront : (e ++ d :: rest).dropWhile isPadding = e.dropWhile isPadding ++ d :: rest := by
    rw [List.dropWhile_append, List.dropWhile_cons_of_neg (by simp [hpadding])]
    split
    next hempty => rw [List.isEmpty_iff.1 hempty, List.nil_append]
    next => rfl
  have hback (front : List Char) :
      ((front ++ d :: rest).reverse.dropWhile isPadding).reverse = front ++ d :: rest := by
    obtain ⟨l, before, hl⟩ := List.exists_cons_of_ne_nil
      (mt List.reverse_eq_nil_iff.1 (List.cons_ne_nil d rest))
    have hl' : isPadding l = false := hlast l (by rw [← List.head?_reverse, hl]; rfl)
    rw [List.reverse_append, hl, List.cons_append, List.dropWhile_cons_of_neg (by simp [hl']),
      ← List.cons_append, ← hl, ← List.reverse_append, List.reverse_reverse]
  have hkept : (d :: rest).filter (fun c => c != '\t' && c != '\n' && c != '\r') = d :: rest := by
    refine List.filter_eq_self.2 fun c hc => ?_
    have hc := hinside c hc
    simpa [and_assoc] using hc
  rw [strip, hfront, hback, List.filter_append, hkept, stripFront]

theorem mem_stripFront (hc : isPadding c = false) : c ∈ stripFront e ↔ c ∈ e := by
  have hother : (c != '\t' && c != '\n' && c != '\r') = true := by
    simp only [Bool.and_eq_true, bne_iff_ne]
    refine ⟨⟨?_, ?_⟩, ?_⟩ <;> rintro rfl <;> cases hc
  rw [stripFront, List.mem_filter, and_iff_left hother]
  refine ⟨fun h => (List.dropWhile_suffix _).subset h, fun h => ?_⟩
  rw [← List.takeWhile_append_dropWhile (p := isPadding) (l := e), List.mem_append] at h
  refine h.resolve_left fun htake => ?_
  rw [List.mem_takeWhile_imp htake] at hc
  cases hc

/-- The scheme is before the first slash. -/
theorem splitScheme_append (r : List Char) :
    splitScheme (e ++ '/' :: r) = (splitScheme e).map fun p => (p.1, p.2 ++ '/' :: r) := by
  have hfront : (e ++ '/' :: r).takeWhile
      (fun c => c.isAlphanum || c == '+' || c == '-' || c == '.') =
      e.takeWhile fun c => c.isAlphanum || c == '+' || c == '-' || c == '.' := by
    rw [List.takeWhile_append]
    split
    next hall => rw [List.takeWhile_cons_of_neg (by decide), List.append_nil,
      (List.takeWhile_prefix _).eq_of_length hall]
    next => rfl
  rw [splitScheme, splitScheme, hfront]
  have hle := (List.takeWhile_prefix (l := e)
    fun c => c.isAlphanum || c == '+' || c == '-' || c == '.').length_le
  simp only [List.drop_append_of_le_length hle]
  generalize e.takeWhile _ = front
  generalize e.drop front.length = back
  rcases front with _ | ⟨c, front⟩
  · rfl
  rcases back with _ | ⟨d, back⟩
  · rfl
  by_cases hd : d = ':'
  · subst hd
    simp only [List.cons_append]
    split <;> rfl
  · simp [hd]

/-- The marks of queries and fragments are behind the scheme. -/
theorem mem_of_splitScheme {scheme : String} {r : List Char} (h : splitScheme e = some (scheme, r))
    (hc : c = '#' ∨ c = '?') : c ∈ r ↔ c ∈ e := by
  rw [splitScheme] at h
  generalize hfront : e.takeWhile _ = front at h
  have hdrop : front ++ e.drop front.length = e :=
    List.prefix_iff_eq_append.1 (hfront ▸ List.takeWhile_prefix _)
  have hnot : c ∉ front := fun hmem => by
    have hscheme := List.mem_takeWhile_imp (hfront ▸ hmem)
    rcases hc with rfl | rfl <;> cases hscheme
  generalize e.drop front.length = back at h hdrop
  subst hdrop
  split at h
  next =>
    split at h
    · cases h
      have hcolon : c ≠ ':' := by rcases hc with rfl | rfl <;> decide
      rw [List.mem_append, or_iff_right hnot, List.mem_cons, or_iff_right hcolon]
    · cases h
  next => cases h

/-! ## Paths -/

/-- A segment that stands for itself comes last. -/
theorem exists_resolve_append (segments done : List (List Char)) : ∃ before : List (List Char),
    ∀ w, isDot w = false → isDoubleDot w = false →
      resolve false done (segments ++ [w]) = before ++ [w] := by
  induction segments generalizing done with
  | nil =>
    refine ⟨done.reverse, fun w hdot hdoubleDot => ?_⟩
    simp [resolve, hdot, hdoubleDot]
  | cons segment rest ih =>
    have hmore (w : List Char) : (rest ++ [w]).isEmpty = false := by simp
    simp only [List.cons_append, resolve, hmore, Bool.false_eq_true, if_false, Bool.false_and]
    split
    · exact ih _
    · split
      · exact ih _
      · exact ih _

theorem exists_plainPath_segment {front : List Char}
    (hfront : front = [] ∨ ∃ f, front = f ++ ['/']) : ∃ before : List Char, ∀ w, IsSegment w →
      plainPath (front ++ w) = String.ofList (before ++ Percent.encode Percent.inPath w) := by
  obtain ⟨earlier, hparts⟩ : ∃ earlier, ∀ w, IsSegment w →
      Text.parts '/' (front ++ w) = earlier ++ [w] := by
    rcases hfront with rfl | ⟨f, rfl⟩
    · exact ⟨[], fun w hw => Text.parts_of_not_mem (hw.not_mem (by decide))⟩
    · refine ⟨Text.parts '/' f, fun w hw => ?_⟩
      rw [List.append_assoc, List.singleton_append, Text.parts_append_cons,
        Text.parts_of_not_mem (hw.not_mem (by decide))]
  obtain ⟨before, hresolve⟩ :=
    exists_resolve_append (earlier.map (Percent.encode Percent.inPath)) []
  refine ⟨pathOf before ++ ['/'], fun w hw => ?_⟩
  rw [plainPath, segments, hparts w hw, List.map_append, List.map_singleton,
    hresolve _ hw.not_dot hw.not_doubleDot]
  simp [pathOf]

/-! ## Addresses -/

theorem map_asSlash (hw : IsSegment w) : w.map asSlash = w := by
  refine (List.map_congr_left fun c hc => if_neg ?_).trans (List.map_id' w)
  rintro rfl
  exact hw.not_mem (by decide) hc

/-- Behind the slashes at the beginning there is something before the segment. -/
theorem exists_dropWhile_segment (e : List Char) (hs : IsSegment s) : ∃ front : List Char,
    ∀ w, IsSegment w → ((e ++ '/' :: (s ++ '/' :: w)).map asSlash).dropWhile (· == '/') =
      front ++ '/' :: w := by
  have hmap (w : List Char) (hw : IsSegment w) : (e ++ '/' :: (s ++ '/' :: w)).map asSlash =
      e.map asSlash ++ '/' :: (s ++ '/' :: w) := by
    simp only [List.map_append, List.map_cons, map_asSlash hs, map_asSlash hw]
    rfl
  obtain ⟨c, rest, rfl⟩ := List.exists_cons_of_ne_nil hs.ne_nil
  have hc : c ≠ '/' := by
    rintro rfl
    exact hs.not_mem (by decide) List.mem_cons_self
  cases hslashes : ((e.map asSlash).dropWhile (· == '/')).isEmpty with
  | true =>
    refine ⟨c :: rest, fun w hw => ?_⟩
    rw [hmap w hw, List.dropWhile_append, if_pos hslashes, List.dropWhile_cons_of_pos (by simp),
      List.cons_append, List.dropWhile_cons_of_neg (by simp [hc])]
  | false =>
    refine ⟨(e.map asSlash).dropWhile (· == '/') ++ '/' :: c :: rest, fun w hw => ?_⟩
    rw [hmap w hw, List.dropWhile_append, if_neg (by simp [hslashes])]
    simp

theorem readWeb?_eq (usualPort : Nat) (cs : List Char) : readWeb? usualPort cs =
    (webAuthority? usualPort (splitAt '/' ((cs.map asSlash).dropWhile (· == '/'))).1).map fun a =>
      (some a, plainPath ((splitAt '/' ((cs.map asSlash).dropWhile (· == '/'))).2.drop 1)) := by
  unfold readWeb?
  rcases splitAt '/' ((cs.map asSlash).dropWhile (· == '/')) with ⟨text, rest⟩
  dsimp only
  cases webAuthority? usualPort text <;> rfl

/-- An address of the web has an authority. -/
theorem authority_of_readWeb? {usualPort : Nat} {cs : List Char} {p : Option Authority × String}
    (h : readWeb? usualPort cs = some p) : ∃ authority path, p = (some authority, path) := by
  rw [readWeb?_eq] at h
  obtain ⟨authority, -, rfl⟩ := Option.map_eq_some_iff.1 h
  exact ⟨authority, _, rfl⟩

/-- The segment ends the path. -/
theorem exists_readWeb?_segment (usualPort : Nat) (e : List Char) (hs : IsSegment s) :
    ∃ (authority : Option Authority) (before : List Char), ∀ w, IsSegment w →
      readWeb? usualPort (e ++ '/' :: (s ++ '/' :: w)) = authority.map fun a =>
        (some a, String.ofList (before ++ Percent.encode Percent.inPath w)) := by
  obtain ⟨front, hdrop⟩ := exists_dropWhile_segment e hs
  obtain ⟨text, behind, hbehind, hsplit⟩ : ∃ (text behind : List Char),
      (behind = [] ∨ ∃ f, behind = f ++ ['/']) ∧ ∀ w, IsSegment w →
        splitAt '/' (front ++ '/' :: w) = (text, '/' :: (behind ++ w)) := by
    by_cases hslash : '/' ∈ front
    · obtain ⟨f, r, rfl, hf⟩ := List.eq_append_cons_of_mem hslash
      refine ⟨f, r ++ ['/'], .inr ⟨r, rfl⟩, fun w _ => ?_⟩
      rw [List.append_assoc, List.cons_append, splitAt_append_cons hf]
      simp
    · exact ⟨front, [], .inl rfl, fun w _ => splitAt_append_cons hslash w⟩
  obtain ⟨before, hpath⟩ := exists_plainPath_segment hbehind
  refine ⟨webAuthority? usualPort text, before, fun w hw => ?_⟩
  simp only [readWeb?_eq, hdrop w hw, hsplit w hw, List.drop_one, List.tail_cons, hpath w hw]

/-- A part of an address behind the authority. -/
inductive Part
  /-- The path. -/
  | path
  /-- The query. -/
  | query
  /-- The fragment. -/
  | fragment
  deriving DecidableEq, Repr

namespace Part

/-- What may stand in the part of an address of the web. -/
def allowed : Part → Char → Bool
  | path => Percent.inPath
  | query => Percent.inQuery
  | fragment => Percent.inFragment

/-- How a text is written in the part. -/
def written (p : Part) (text : String) : String :=
  String.ofList (Percent.encode p.allowed text.toList)

/-- The part that an address is in behind a text. -/
def after (e : List Char) : Part :=
  if '#' ∈ e then fragment else if '?' ∈ e then query else path

theorem after_eq_of_mem_iff {e r : List Char} (h : ∀ c, c = '#' ∨ c = '?' → (c ∈ r ↔ c ∈ e)) :
    after r = after e := by
  simp only [after, h '#' (.inl rfl), h '?' (.inr rfl)]

end Part

/-- Addresses of the web that differ in what stands at their end, in this part. -/
inductive EndsIn : Part → (String → Url) → Prop
  /-- At the end of the path. -/
  | path (scheme : String) (authority : Authority) (front : String) :
    EndsIn .path fun text => ⟨scheme, some authority, front ++ text, none, none⟩
  /-- At the end of the query. -/
  | query (scheme : String) (authority : Authority) (path front : String) :
    EndsIn .query fun text => ⟨scheme, some authority, path, some (front ++ text), none⟩
  /-- At the end of the fragment. -/
  | fragment (scheme : String) (authority : Authority) (path : String) (query : Option String)
    (front : String) :
    EndsIn .fragment fun text => ⟨scheme, some authority, path, query, some (front ++ text)⟩

/-- The address with this scheme and this text behind the colon, on the web. -/
def ofWebText? (scheme : String) (usualPort : Nat) (cs : List Char) : Option Url :=
  let (cs, fragment) := splitFragment cs
  let (cs, query) := splitQuery (.web usualPort) cs
  (readWeb? usualPort cs).map fun p => ⟨scheme, p.1, p.2, query, fragment⟩

theorem ofWebText?_eq (scheme : String) (usualPort : Nat) (cs : List Char) :
    ofWebText? scheme usualPort cs =
      (readWeb? usualPort (splitQuery (.web usualPort) (splitFragment cs).1).1).map fun p =>
        ⟨scheme, p.1, p.2, (splitQuery (.web usualPort) (splitFragment cs).1).2,
          (splitFragment cs).2⟩ := rfl

/-- Behind the sign that begins a query or a fragment, everything is encoded. -/
theorem encode_segments (allowed : Char → Bool) (e s w : List Char) :
    Percent.encode allowed (e ++ '/' :: (s ++ '/' :: w)) =
      Percent.encode allowed (e ++ '/' :: (s ++ ['/'])) ++ Percent.encode allowed w := by
  rw [← encode_append]
  simp

/-- A fragment that was begun before takes the segment. -/
theorem splitFragment_of_mem (he : '#' ∈ e) (s : List Char) : ∃ (f : List Char) (front : String),
    ∀ w, splitFragment (e ++ '/' :: (s ++ '/' :: w)) =
      (f, some (front ++ String.ofList (Percent.encode Percent.inFragment w))) := by
  obtain ⟨f, r, rfl, hf⟩ := List.eq_append_cons_of_mem he
  refine ⟨f, String.ofList (Percent.encode Percent.inFragment (r ++ '/' :: (s ++ ['/']))),
    fun w => ?_⟩
  rw [splitFragment, List.append_assoc, List.cons_append, splitAt_append_cons hf]
  dsimp only
  rw [encode_segments, String.ofList_append]

theorem inQuery_web (usualPort : Nat) : (Manner.web usualPort).inQuery = Percent.inQuery := by
  funext c
  exact Bool.or_false _

/-- A query that was begun before takes the segment. -/
theorem splitQuery_of_mem (he : '?' ∈ e) (s : List Char) (usualPort : Nat) :
    ∃ (f : List Char) (front : String), ∀ w,
      splitQuery (.web usualPort) (e ++ '/' :: (s ++ '/' :: w)) =
        (f, some (front ++ String.ofList (Percent.encode Percent.inQuery w))) := by
  obtain ⟨f, r, rfl, hf⟩ := List.eq_append_cons_of_mem he
  refine ⟨f, String.ofList (Percent.encode Percent.inQuery (r ++ '/' :: (s ++ ['/']))),
    fun w => ?_⟩
  rw [splitQuery, List.append_assoc, List.cons_append, splitAt_append_cons hf]
  dsimp only
  rw [inQuery_web, encode_segments, String.ofList_append]

theorem exists_ofWebText?_segment (scheme : String) (usualPort : Nat) (e : List Char)
    (hs : IsSegment s) (hw : IsSegment w) {u : Url}
    (hu : ofWebText? scheme usualPort (e ++ '/' :: (s ++ '/' :: w)) = some u) :
    ∃ ending, EndsIn (.after e) ending ∧ ∀ w, IsSegment w →
      ofWebText? scheme usualPort (e ++ '/' :: (s ++ '/' :: w)) =
        some (ending (String.ofList (Percent.encode (Part.after e).allowed w))) := by
  by_cases hfragment : '#' ∈ e
  · obtain ⟨f, front, hsplit⟩ := splitFragment_of_mem hfragment s
    rw [ofWebText?_eq, hsplit w] at hu
    obtain ⟨p, hread, -⟩ := Option.map_eq_some_iff.1 hu
    obtain ⟨authority, path, rfl⟩ := authority_of_readWeb? hread
    rw [Part.after, if_pos hfragment]
    refine ⟨_, .fragment scheme authority path (splitQuery (.web usualPort) f).2 front,
      fun w hw => ?_⟩
    rw [ofWebText?_eq, hsplit w, hread]
    rfl
  have hwhole (w : List Char) (hw : IsSegment w) : splitFragment (e ++ '/' :: (s ++ '/' :: w)) =
      (e ++ '/' :: (s ++ '/' :: w), none) := by
    rw [splitFragment, splitAt_of_not_mem]
    simp [hfragment, hs.not_mem, hw.not_mem]
  by_cases hquery : '?' ∈ e
  · obtain ⟨f, front, hsplit⟩ := splitQuery_of_mem hquery s usualPort
    rw [ofWebText?_eq, hwhole w hw, hsplit w] at hu
    obtain ⟨p, hread, -⟩ := Option.map_eq_some_iff.1 hu
    obtain ⟨authority, path, rfl⟩ := authority_of_readWeb? hread
    rw [Part.after, if_neg hfragment, if_pos hquery]
    refine ⟨_, .query scheme authority path front, fun w hw => ?_⟩
    rw [ofWebText?_eq, hwhole w hw, hsplit w, hread]
    rfl
  have hwhole' (w : List Char) (hw : IsSegment w) :
      splitQuery (.web usualPort) (e ++ '/' :: (s ++ '/' :: w)) =
        (e ++ '/' :: (s ++ '/' :: w), none) := by
    rw [splitQuery, splitAt_of_not_mem]
    simp [hquery, hs.not_mem, hw.not_mem]
  obtain ⟨authority, before, hread⟩ := exists_readWeb?_segment usualPort e hs
  rw [ofWebText?_eq, hwhole w hw, hwhole' w hw, hread w hw] at hu
  rw [Part.after, if_neg hfragment, if_neg hquery]
  cases authority with
  | none => cases hu
  | some authority =>
    refine ⟨_, .path scheme authority (String.ofList before), fun w hw => ?_⟩
    rw [ofWebText?_eq, hwhole w hw, hwhole' w hw, hread w hw, String.ofList_append]
    rfl

/-- The scheme of an address is read first. -/
theorem splitScheme_of_ofText? {text : String} {u : Url} (hu : ofText? text = some u) :
    ∃ cs, splitScheme (strip text.toList) = some (u.scheme, cs) := by
  unfold ofText? at hu
  obtain ⟨⟨scheme, cs⟩, hscheme, hrest⟩ := Option.bind_eq_some_iff.1 hu
  dsimp only at hrest
  split at hrest
  all_goals
    obtain ⟨p, -, hp⟩ := Option.bind_eq_some_iff.1 hrest
    cases hp
    exact ⟨cs, hscheme⟩

/-- The manner in which an address of the web is read. -/
theorem exists_manner_of_isWeb {u : Url} (hweb : u.isWeb) :
    ∃ usualPort, Manner.ofScheme u.scheme = .web usualPort := by
  simp only [isWeb, Bool.or_eq_true, beq_iff_eq] at hweb
  rcases hweb with h | h
  · exact ⟨80, by rw [h]; decide⟩
  · exact ⟨443, by rw [h]; decide⟩

theorem ofText?_eq_ofWebText? {text scheme : String} {cs : List Char} {usualPort : Nat}
    (hscheme : splitScheme (strip text.toList) = some (scheme, cs))
    (hmanner : Manner.ofScheme scheme = .web usualPort) :
    ofText? text = ofWebText? scheme usualPort cs := by
  unfold ofText? ofWebText?
  rw [hscheme]
  simp only [Option.bind_eq_bind, Option.bind_some, hmanner]
  cases readWeb? usualPort (splitQuery (.web usualPort) (splitFragment cs).1).1 <;> rfl

/-- A slash and two segments at the end of an address are kept. -/
theorem strip_append_segments (e : List Char) (hs : IsSegment s) (hw : IsSegment w) :
    strip (e ++ '/' :: (s ++ '/' :: w)) = stripFront e ++ '/' :: (s ++ '/' :: w) := by
  refine strip_append ⟨'/', rfl, by decide⟩ ?_ ?_
  · obtain ⟨l, hl⟩ := Option.isSome_iff_exists.1 (List.getLast?_isSome.2 hw.ne_nil)
    intro c hc
    have hlast : ('/' :: (s ++ '/' :: w)).getLast? = w.getLast? := by
      rw [hl, ← List.cons_append, List.append_cons, List.getLast?_append, hl]
      rfl
    exact hw.unpadded c (hlast ▸ hc)
  · intro c hc hmark
    have hforbidden : c ∈ ['/', '\\', '?', '#', '\t', '\n', '\r'] := by
      simp only [List.mem_cons, List.not_mem_nil, or_false] at hmark ⊢
      tauto
    rcases List.mem_cons.1 hc with rfl | hc
    · simp at hmark
    rcases List.mem_append.1 hc with hc | hc
    · exact hs.not_mem hforbidden hc
    rcases List.mem_cons.1 hc with rfl | hc
    · simp at hmark
    · exact hw.not_mem hforbidden hc

/-- The addresses of an endpoint and two segments, if one of them is an address of the web. -/
theorem exists_ofText?_segment {e s w : String} (hs : IsSegment s.toList) (hw : IsSegment w.toList)
    {u : Url} (hu : ofText? (e ++ "/" ++ s ++ "/" ++ w) = some u) (hweb : u.isWeb) :
    ∃ ending, EndsIn (.after e.toList) ending ∧ ∀ w : String, IsSegment w.toList →
      ofText? (e ++ "/" ++ s ++ "/" ++ w) = some (ending ((Part.after e.toList).written w)) := by
  have htoList (w : String) : (e ++ "/" ++ s ++ "/" ++ w).toList =
      e.toList ++ '/' :: (s.toList ++ '/' :: w.toList) := by
    simp
  have hstrip (w : String) (hw : IsSegment w.toList) : strip (e ++ "/" ++ s ++ "/" ++ w).toList =
      stripFront e.toList ++ '/' :: (s.toList ++ '/' :: w.toList) := by
    rw [htoList, strip_append_segments _ hs hw]
  obtain ⟨usualPort, hmanner⟩ := exists_manner_of_isWeb hweb
  obtain ⟨cs, hscheme⟩ := splitScheme_of_ofText? hu
  rw [hstrip w hw, splitScheme_append] at hscheme
  obtain ⟨⟨scheme, behind⟩, hkept, hsame⟩ := Option.map_eq_some_iff.1 hscheme
  obtain ⟨rfl, rfl⟩ := Prod.mk.inj hsame
  have hread (w : String) (hw : IsSegment w.toList) : ofText? (e ++ "/" ++ s ++ "/" ++ w) =
      ofWebText? u.scheme usualPort (behind ++ '/' :: (s.toList ++ '/' :: w.toList)) := by
    refine ofText?_eq_ofWebText? ?_ hmanner
    rw [hstrip w hw, splitScheme_append, hkept]
    rfl
  have hpart : Part.after behind = Part.after e.toList :=
    Part.after_eq_of_mem_iff fun c hc => (mem_of_splitScheme hkept hc).trans <|
      mem_stripFront (by rcases hc with rfl | rfl <;> decide)
  rw [hread w hw] at hu
  obtain ⟨ending, hending, hall⟩ := exists_ofWebText?_segment u.scheme usualPort behind hs hw hu
  rw [hpart] at hending hall
  exact ⟨ending, hending, fun w hw => (hread w hw).trans (hall w.toList hw)⟩

/-! ## What requests need -/

namespace EndsIn

variable {p : Part} {ending : String → Url}

theorem text_eq (h : EndsIn p ending) (text : String) :
    (ending text).text = (ending "").text ++ text := by
  cases h <;> simp [Url.text, String.append_assoc]

theorem anonymous (h : EndsIn p ending) : EndsIn p fun text => (ending text).anonymous := by
  cases h with
  | path scheme a front => exact .path scheme a.anonymous front
  | query scheme a path front => exact .query scheme a.anonymous path front
  | fragment scheme a path query front => exact .fragment scheme a.anonymous path query front

theorem hasHost_eq (h : EndsIn p ending) (text text' : String) :
    (ending text).hasHost = (ending text').hasHost := by
  cases h <;> rfl

theorem isWeb_eq (h : EndsIn p ending) (text text' : String) :
    (ending text).isWeb = (ending text').isWeb := by
  cases h <;> rfl

/-- A shorter text does no harm. -/
theorem isReachable (h : EndsIn p ending) {text text' : String}
    (hle : text'.utf8ByteSize ≤ text.utf8ByteSize) (hw : (ending text).isReachable) :
    (ending text').isReachable := by
  rw [Url.isReachable, Bool.and_eq_true, decide_eq_true_eq, h.text_eq,
    String.utf8ByteSize_append] at hw ⊢
  refine ⟨?_, by omega⟩
  have hhost := hw.1
  cases h <;> exact hhost

end EndsIn

end Url

/-! ## Requests -/

namespace HttpRequest

variable {method : HttpMethod} {address : String} {headers : List (String × String)}
  {body : Option Json}

theorem build_eq_ok_iff {r : HttpRequest} : build method address headers body = .ok r ↔
    ∃ u, Url.ofText? address = some u ∧ u.hasHost ∧ (headers.all fun h => isHeaderText h.2) ∧
      u.anonymous.isWeb ∧ u.anonymous.isReachable ∧ r = ⟨method, u.anonymous, headers, body⟩ := by
  unfold build
  cases Url.ofText? address with
  | none => simp
  | some u =>
    by_cases hhost : u.hasHost
    swap
    · refine iff_of_false (by simp [hhost]) ?_
      rintro ⟨_, ⟨⟩, h, -⟩
      exact hhost h
    by_cases hheaders : headers.all fun h => isHeaderText h.2
    swap
    · refine iff_of_false (by simp [hhost, Bool.eq_false_iff.2 hheaders]) ?_
      rintro ⟨_, ⟨⟩, -, h, -⟩
      exact hheaders h
    by_cases hsupported : u.anonymous.isWeb ∧ u.anonymous.isReachable
    swap
    · have hunsupported : (!u.anonymous.isWeb || !u.anonymous.isReachable) = true := by
        rw [← Bool.not_and, Bool.not_eq_true', ← Bool.not_eq_true, Bool.and_eq_true]
        exact hsupported
      refine iff_of_false (by simp [hhost, hheaders, hunsupported]) ?_
      rintro ⟨_, ⟨⟩, -, -, hweb, hreachable, -⟩
      exact hsupported ⟨hweb, hreachable⟩
    dsimp only
    rw [if_neg (by simp [hhost]), if_neg (by simp [hheaders]), if_neg (by simp [hsupported])]
    refine ⟨fun hr => ⟨u, rfl, hhost, hheaders, hsupported.1, hsupported.2,
      (Except.ok.inj hr).symm⟩, ?_⟩
    rintro ⟨_, ⟨⟩, -, -, -, -, rfl⟩
    rfl

/-- Where a request can be built, those with another last segment in their address go to the same
place but for the segment, and can be built where that is written no longer. -/
theorem exists_build_segment {e s w : String} (hs : Url.IsSegment s.toList)
    (hw : Url.IsSegment w.toList) {r : HttpRequest}
    (hr : build method (e ++ "/" ++ s ++ "/" ++ w) headers body = .ok r) :
    ∃ ending, Url.EndsIn (.after e.toList) ending ∧
      ∀ (w' : String) (body' : Option Json), Url.IsSegment w'.toList →
        (∀ r', build method (e ++ "/" ++ s ++ "/" ++ w') headers body' = .ok r' →
          r' = ⟨method, ending ((Url.Part.after e.toList).written w'), headers, body'⟩) ∧
        (((Url.Part.after e.toList).written w').utf8ByteSize ≤
            ((Url.Part.after e.toList).written w).utf8ByteSize →
          build method (e ++ "/" ++ s ++ "/" ++ w') headers body' =
            .ok ⟨method, ending ((Url.Part.after e.toList).written w'), headers, body'⟩) := by
  obtain ⟨u, hu, hhost, hheaders, hweb, hreachable, -⟩ := build_eq_ok_iff.1 hr
  obtain ⟨ending, hending, hall⟩ := Url.exists_ofText?_segment hs hw hu hweb
  obtain rfl := Option.some.inj ((hall w hw).symm.trans hu)
  refine ⟨_, hending.anonymous, fun w' body' hw' => ⟨fun r' hr' => ?_, fun hle => ?_⟩⟩
  · obtain ⟨u', hu', -, -, -, -, rfl⟩ := build_eq_ok_iff.1 hr'
    obtain rfl := Option.some.inj ((hall w' hw').symm.trans hu')
    rfl
  · exact build_eq_ok_iff.2 ⟨_, hall w' hw', hending.hasHost_eq _ _ ▸ hhost, hheaders,
      hending.anonymous.isWeb_eq _ _ ▸ hweb, hending.anonymous.isReachable hle hreachable, rfl⟩

end HttpRequest

end SimDepot
