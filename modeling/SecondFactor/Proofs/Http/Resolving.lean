import SecondFactor.Http.Client
import SecondFactor.Proofs.Text.CodePoint
import SecondFactor.Proofs.Text.Split

/-! # Where an endpoint is

The endpoint of a client is resolved against its base URL as a reference. References usually take the
place of what stands behind the last slash of a base. Since the base ends with a slash, and the
endpoint does not begin with one, nothing of either is lost. -/

namespace SecondFactor.Http

/-! ## Characters -/

/-- A character of a host name: a letter or a digit, a hyphen, a point, an underscore, or any other
beyond ASCII that is not equivalent to a separator. -/
def isHostChar (c : Char) : Bool :=
  c.isAlphanum || ['-', '.', '_'].contains c
    || (0x80 ≤ c.toNat && !Reference.disguised.contains c.toNat)

/-- A character of a segment: a letter or a digit, a hyphen, an underscore, a point, a tilde, or any
other beyond ASCII. -/
def isSegmentChar (c : Char) : Bool :=
  c.isAlphanum || ['-', '_', '.', '~'].contains c || 0x80 ≤ c.toNat

/-- Whether a character neither ends a part of a reference nor is dropped from it. -/
def IsPlain (c : Char) : Prop := 0x20 < c.toNat ∧ c ∉ ['/', '?', '#', ';', '@', '[', ']']

instance (c : Char) : Decidable (IsPlain c) := inferInstanceAs (Decidable (_ ∧ _))

theorem IsPlain.ne {c d : Char} (hc : IsPlain c) (hd : d ∈ ['/', '?', '#', ';', '@', '[', ']']) :
    c ≠ d := by
  rintro rfl
  exact hc.2 hd

theorem toNat_of_isAlphanum {c : Char} (hc : c.isAlphanum = true) :
    0x20 < c.toNat ∧ c.toNat < 0x80 := by
  have hwithin {first last : Char} (h : first.val ≤ c.val ∧ c.val ≤ last.val)
      (hfirst : 0x20 < first.toNat) (hlast : last.toNat < 0x80) :
      0x20 < c.toNat ∧ c.toNat < 0x80 :=
    ⟨Nat.lt_of_lt_of_le hfirst h.1, Nat.lt_of_le_of_lt h.2 hlast⟩
  rcases (Bool.or_eq_true _ _).mp hc with hletter | hdigit
  · rcases (Bool.or_eq_true _ _).mp hletter with hupper | hlower
    · exact hwithin (of_decide_eq_true hupper) (by decide) (by decide)
    · have hlower := (Bool.and_eq_true _ _).mp hlower
      exact hwithin (hlower.imp of_decide_eq_true of_decide_eq_true) (by decide) (by decide)
  · have hdigit := (Bool.and_eq_true _ _).mp hdigit
    exact hwithin (hdigit.imp of_decide_eq_true of_decide_eq_true) (by decide) (by decide)

/-- A letter or digit is plain, and so is what is beyond ASCII. -/
theorem isPlain_of_class {c : Char} (others : List Char) (hothers : ∀ d ∈ others, IsPlain d)
    (hc : c.isAlphanum = true ∨ c ∈ others ∨ 0x80 ≤ c.toNat) : IsPlain c := by
  rcases hc with hc | hc | hc
  · refine ⟨(toNat_of_isAlphanum hc).1, fun hmem => ?_⟩
    have hsymbols : ∀ d ∈ ['/', '?', '#', ';', '@', '[', ']'], d.isAlphanum = false :=
      forall_mem_of_all (by decide)
    rw [hsymbols c hmem] at hc
    cases hc
  · exact hothers c hc
  · refine ⟨by omega, fun hmem => ?_⟩
    have hsymbols : ∀ d ∈ ['/', '?', '#', ';', '@', '[', ']'], d.toNat < 0x80 :=
      forall_mem_of_all (by decide)
    exact absurd hc (Nat.not_le_of_lt (hsymbols c hmem))

theorem isHostChar_iff {c : Char} : isHostChar c = true ↔
    c.isAlphanum = true ∨ c ∈ ['-', '.', '_'] ∨
      (0x80 ≤ c.toNat ∧ Reference.disguised.contains c.toNat = false) := by
  simp only [isHostChar, Bool.or_eq_true, Bool.and_eq_true, List.contains_eq_mem,
    decide_eq_true_eq, Bool.not_eq_true', or_assoc]

theorem isPlain_of_isHostChar {c : Char} (hc : isHostChar c = true) : IsPlain c :=
  isPlain_of_class ['-', '.', '_'] (forall_mem_of_all (by decide))
    ((isHostChar_iff.mp hc).imp_right (Or.imp_right And.left))

theorem isPlain_of_isSegmentChar {c : Char} (hc : isSegmentChar c = true) : IsPlain c := by
  refine isPlain_of_class ['-', '_', '.', '~'] (forall_mem_of_all (by decide)) ?_
  simpa only [isSegmentChar, Bool.or_eq_true, List.contains_eq_mem, decide_eq_true_eq,
    or_assoc] using hc

/-- All separators in disguise are beyond ASCII. -/
theorem disguised_of_ascii {c : Char} (hc : c.toNat < 0x80) :
    Reference.disguised.contains c.toNat = false := by
  have hhigh : ∀ n ∈ Reference.disguised, 0x80 ≤ n := by decide
  rw [List.contains_eq_mem, decide_eq_false_iff_not]
  exact fun hmem => absurd (hhigh c.toNat hmem) (Nat.not_le_of_lt hc)

theorem disguised_of_isHostChar {c : Char} (hc : isHostChar c = true) :
    Reference.disguised.contains c.toNat = false := by
  rcases isHostChar_iff.mp hc with hc | hc | hc
  · exact disguised_of_ascii (toNat_of_isAlphanum hc).2
  · have hsymbols : ∀ d ∈ ['-', '.', '_'], d.toNat < 0x80 := forall_mem_of_all (by decide)
    exact disguised_of_ascii (hsymbols c hc)
  · exact hc.2

/-! ## Places -/

/-- A segment of a path. Neither one dot nor two are a segment, since these are followed. -/
structure Segment where
  text : List Char
  ne_nil : text ≠ []
  chars : ∀ c ∈ text, isSegmentChar c = true
  ne_dot : text ≠ ['.']
  ne_dots : text ≠ ['.', '.']

theorem Segment.plain (s : Segment) : ∀ c ∈ s.text, IsPlain c :=
  fun c hc => isPlain_of_isSegmentChar (s.chars c hc)

theorem Segment.slash_notMem (s : Segment) : '/' ∉ s.text :=
  fun hmem => (s.plain '/' hmem).2 (by decide)

/-- What a base URL begins with: a scheme, and a host name with or without a number behind it. -/
structure Site where
  secure : Bool
  host : List Char
  portNumber : Option (List Char)
  host_ne_nil : host ≠ []
  host_chars : ∀ c ∈ host, isHostChar c = true
  digits : ∀ number, portNumber = some number → ∀ c ∈ number, c.isDigit = true

namespace Site

def scheme (site : Site) : List Char := (if site.secure then "https" else "http").toList

def authority (site : Site) : List Char :=
  site.host ++ match site.portNumber with
    | some number => ':' :: number
    | none => []

def text (site : Site) : List Char := site.scheme ++ ':' :: '/' :: '/' :: site.authority

/-- A base URL with segments, each behind a slash, and any number of slashes behind them. -/
def baseUrl (site : Site) (base : List Segment) (slashes : Nat) : String :=
  String.ofList (site.text ++ base.flatMap ('/' :: ·.text) ++ List.replicate slashes '/')

/-- The place of a path on a site. -/
def place (site : Site) (path : List Segment) : List Char :=
  site.text ++ '/' :: Split.join '/' (path.map Segment.text)

variable (site : Site)

theorem authority_ne_nil : site.authority ≠ [] := by
  intro hnil
  exact site.host_ne_nil (List.append_eq_nil_iff.mp hnil).1

theorem scheme_chars : ∀ c ∈ site.scheme, 0x20 < c.toNat ∧ c ≠ ':' := by
  unfold scheme
  cases site.secure <;> exact forall_mem_of_all (by decide)

theorem authority_cases {c : Char} (hc : c ∈ site.authority) :
    isHostChar c = true ∨ c = ':' ∨ c.isAlphanum = true := by
  rcases List.mem_append.mp hc with hhost | hnumber
  · exact .inl (site.host_chars c hhost)
  · refine .inr ?_
    split at hnumber
    next number hsome =>
      refine (List.mem_cons.mp hnumber).imp_right fun hmem => ?_
      rw [Char.isAlphanum, site.digits number hsome c hmem, Bool.or_true]
    next => cases hnumber

theorem plain_authority : ∀ c ∈ site.authority, IsPlain c := by
  intro c hc
  rcases site.authority_cases hc with hhost | rfl | hdigit
  · exact isPlain_of_isHostChar hhost
  · decide
  · exact isPlain_of_class [] (List.forall_mem_nil _) (.inl hdigit)

theorem cut_authority (path : List Char) :
    Split.cut (fun c => c == '/' || c == '?' || c == '#') (site.authority ++ '/' :: path) =
      (site.authority, '/' :: path) := by
  refine Split.cut_append (fun c hc => ?_) (by decide) path
  have hplain := site.plain_authority c hc
  simp [hplain.ne (d := '/') (by decide), hplain.ne (d := '?') (by decide),
    hplain.ne (d := '#') (by decide)]

theorem blank_lt : ∀ c ∈ site.text, 0x20 < c.toNat := by
  intro c hc
  rcases List.mem_append.mp hc with hc | hc
  · exact (site.scheme_chars c hc).1
  · simp only [List.mem_cons] at hc
    rcases hc with rfl | rfl | rfl | hc
    · decide
    · decide
    · decide
    · exact (site.plain_authority c hc).1

theorem disguised_authority :
    ∀ c ∈ site.authority, Reference.disguised.contains c.toNat = false := by
  intro c hc
  rcases site.authority_cases hc with hhost | rfl | hdigit
  · exact disguised_of_isHostChar hhost
  · decide
  · exact disguised_of_ascii (toNat_of_isAlphanum hdigit).2

end Site

/-- An endpoint with any number of slashes before its segments. -/
def endpoint (slashes : Nat) (path : List Segment) : String :=
  String.ofList (List.replicate slashes '/' ++ Split.join '/' (path.map Segment.text))

/-! ## Parts of references -/

namespace Reference

theorem clean_of_forall {s : List Char} (hs : ∀ c ∈ s, 0x20 < c.toNat) :
    (s.dropWhile (fun c => c.toNat ≤ 0x20)).filter
      (fun c => !(['\t', '\r', '\n'].contains c)) = s := by
  have hfront : s.dropWhile (fun c => c.toNat ≤ 0x20) = s := by
    cases s with
    | nil => rfl
    | cons c s =>
      have hc : 0x20 < c.toNat := hs c List.mem_cons_self
      exact List.dropWhile_cons_of_neg (by simpa using hc)
  rw [hfront, List.filter_eq_self]
  intro c hc
  have hblanks : ∀ d ∈ ['\t', '\r', '\n'], d.toNat ≤ 0x20 := forall_mem_of_all (by decide)
  rw [List.contains_eq_mem, Bool.not_eq_true', decide_eq_false_iff_not]
  exact fun hmem => absurd (hs c hc) (Nat.not_lt_of_le (hblanks c hmem))

theorem checkAuthority_site (site : Site) : checkAuthority site.authority = .ok () := by
  have hopening : site.authority.contains '[' = false := by
    rw [List.contains_eq_mem, decide_eq_false_iff_not]
    exact fun hmem => (site.plain_authority '[' hmem).2 (by decide)
  have hclosing : site.authority.contains ']' = false := by
    rw [List.contains_eq_mem, decide_eq_false_iff_not]
    exact fun hmem => (site.plain_authority ']' hmem).2 (by decide)
  have hdisguised : (site.authority.any fun c => disguised.contains c.toNat) = false := by
    rw [List.any_eq_false]
    intro c hc
    rw [site.disguised_authority c hc]
    exact Bool.false_ne_true
  rw [checkAuthority, hopening, hclosing, hdisguised]
  rfl

theorem splitScheme_site (site : Site) (s : List Char) :
    splitScheme (site.scheme ++ ':' :: s) = (some site.scheme, s) := by
  have hplain : ∀ c ∈ site.scheme, (c == ':') = false :=
    fun c hc => beq_eq_false_iff_ne.mpr (site.scheme_chars c hc).2
  unfold splitScheme
  rw [Split.cut_append hplain (beq_self_eq_true ':')]
  unfold Site.scheme
  cases site.secure <;> rfl

theorem splitScheme_of_forall {s : List Char} (hs : ∀ c ∈ s, (c == ':') = false) :
    splitScheme s = (none, s) := by
  unfold splitScheme
  rw [Split.cut_of_forall hs]
  cases s <;> rfl

/-- Whether a character stands in a path that is made of segments. -/
def IsPathChar (c : Char) : Prop := c = '/' ∨ isSegmentChar c = true

theorem IsPathChar.blank_lt {c : Char} (hc : IsPathChar c) : 0x20 < c.toNat := by
  rcases hc with rfl | hc
  · decide
  · exact (isPlain_of_isSegmentChar hc).1

theorem IsPathChar.ne {c d : Char} (hc : IsPathChar c) (hd : d ∈ ['#', '?', ';', ':']) : c ≠ d := by
  have hsymbols : ∀ d ∈ ['#', '?', ';', ':'], d ≠ '/' ∧ isSegmentChar d = false :=
    forall_mem_of_all (by decide)
  rintro rfl
  obtain ⟨hslash, hsegment⟩ := hsymbols c hd
  rcases hc with hc | hc
  · exact hslash hc
  · rw [hsegment] at hc
    cases hc

theorem cut_path {path : List Char} (hpath : ∀ c ∈ path, IsPathChar c) {d : Char}
    (hd : d ∈ ['#', '?', ';', ':']) : Split.cut (· == d) path = (path, []) := by
  refine Split.cut_of_forall fun c hc => ?_
  rw [beq_eq_false_iff_ne]
  exact (hpath c hc).ne hd

theorem splitParams_path {path : List Char} (hpath : ∀ c ∈ path, IsPathChar c) :
    splitParams path = (path, []) := by
  let last := (path.reverse.takeWhile (· ≠ '/')).reverse
  have hsuffix : last <:+ path := by
    rw [← List.reverse_reverse path, List.reverse_suffix]
    exact List.takeWhile_prefix _
  have hlast : Split.cut (· == ';') last = (last, []) :=
    cut_path (fun c hc => hpath c (hsuffix.subset hc)) (by decide)
  unfold splitParams
  dsimp only
  rw [hlast]
  exact Prod.ext (List.suffix_iff_eq_append.mp hsuffix) rfl

/-- A base URL is cut into its scheme, its authority and its path. -/
theorem parse_site (site : Site) {path : List Char} (hpath : ∀ c ∈ '/' :: path, IsPathChar c) :
    parse [] (site.text ++ '/' :: path) =
      .ok { scheme := site.scheme, authority := site.authority, path := '/' :: path } := by
  have hclean : ∀ c ∈ site.text ++ '/' :: path, 0x20 < c.toNat := by
    intro c hc
    rcases List.mem_append.mp hc with hsite | hpath'
    · exact site.blank_lt c hsite
    · exact (hpath c hpath').blank_lt
  have htext : site.text ++ '/' :: path =
      site.scheme ++ ':' :: '/' :: '/' :: (site.authority ++ '/' :: path) := by
    simp [Site.text]
  unfold parse
  simp only [clean_of_forall hclean]
  rw [htext, splitScheme_site]
  simp only [site.cut_authority, checkAuthority_site, cut_path hpath (d := '#') (by decide),
    cut_path hpath (d := '?') (by decide), splitParams_path hpath, bind, Except.bind]
  split <;> rfl

/-- A reference that does not begin with a slash is no more than a path. -/
theorem parse_path (scheme : List Char) {path : List Char} (hpath : ∀ c ∈ path, IsPathChar c)
    (hhead : path.head? ≠ some '/') : parse scheme path = .ok { scheme, path } := by
  have hclean : ∀ c ∈ path, 0x20 < c.toNat := fun c hc => (hpath c hc).blank_lt
  have hscheme : splitScheme path = (none, path) :=
    splitScheme_of_forall fun c hc => beq_eq_false_iff_ne.mpr ((hpath c hc).ne (by decide))
  have hnone : checkAuthority [] = .ok () := rfl
  unfold parse
  simp only [clean_of_forall hclean, hscheme]
  split
  · exact absurd rfl hhead
  · simp only [cut_path hpath (d := '#') (by decide), cut_path hpath (d := '?') (by decide),
      splitParams_path hpath, hnone, bind, Except.bind]
    split <;> rfl

/-! ## Paths -/

/-- Where there are no dots, none are followed. -/
theorem followDots_of_forall {ss : List (List Char)} (hss : ∀ s ∈ ss, s ≠ ['.'] ∧ s ≠ ['.', '.']) :
    followDots ss = ss := by
  let follow (done : List (List Char)) (s : List Char) : List (List Char) :=
    if s = ['.', '.'] then done.dropLast else if s = ['.'] then done else done ++ [s]
  have hfold (done : List (List Char)) : ss.foldl follow done = done ++ ss := by
    induction ss generalizing done with
    | nil => rw [List.foldl_nil, List.append_nil]
    | cons s ss ih =>
      obtain ⟨⟨hdot, hdots⟩, hss⟩ := List.forall_mem_cons.mp hss
      have hstep : follow done s = done ++ [s] := by simp only [follow, hdot, hdots, if_false]
      rw [List.foldl_cons, hstep, ih hss, List.append_assoc, List.singleton_append]
  exact (hfold []).trans (List.nil_append ss)

theorem filter_segments (segments : List Segment) :
    (segments.map Segment.text).filter (!·.isEmpty) = segments.map Segment.text := by
  rw [List.filter_eq_self]
  intro s hs
  obtain ⟨segment, -, rfl⟩ := List.mem_map.mp hs
  simpa using segment.ne_nil

/-- What stands behind the last slash of a base is empty, and nothing else is lost. -/
theorem dropEmptyInner_segments (base front : List Segment) (last : Segment) :
    dropEmptyInner ([] :: (base.map Segment.text ++ [[]] ++ (front ++ [last]).map Segment.text)) =
      [] :: (base ++ (front ++ [last])).map Segment.text := by
  have hrest : base.map Segment.text ++ [[]] ++ (front ++ [last]).map Segment.text =
      (base.map Segment.text ++ [[]] ++ front.map Segment.text) ++ [last.text] := by
    simp
  rw [dropEmptyInner, hrest, List.dropLast_concat, List.getLast?_concat, List.filter_append,
    List.filter_append, filter_segments, filter_segments]
  simp

theorem on_segments {segments : List Segment} (hne : segments ≠ []) :
    Split.on '/' (Split.join '/' (segments.map Segment.text)) = segments.map Segment.text := by
  refine Split.on_join (by simpa using hne) fun s hs => ?_
  obtain ⟨segment, -, rfl⟩ := List.mem_map.mp hs
  exact segment.slash_notMem

theorem on_base (base : List Segment) :
    Split.on '/' ('/' :: Split.join '/' (base.map Segment.text ++ [[]])) =
      [] :: (base.map Segment.text ++ [[]]) := by
  have hjoin : '/' :: Split.join '/' (base.map Segment.text ++ [[]]) =
      Split.join '/' ([] :: (base.map Segment.text ++ [[]])) :=
    (Split.join_cons '/' [] (by simp)).symm
  rw [hjoin]
  refine Split.on_join (List.cons_ne_nil _ _) fun s hs => ?_
  rcases List.mem_cons.mp hs with rfl | hs
  · exact List.not_mem_nil
  · rcases List.mem_append.mp hs with hs | hs
    · obtain ⟨segment, -, rfl⟩ := List.mem_map.mp hs
      exact segment.slash_notMem
    · rw [List.mem_singleton.mp hs]
      exact List.not_mem_nil

/-- A path of segments begins with a character of the first one. -/
theorem exists_join_segments {segments : List Segment} (hne : segments ≠ []) :
    ∃ c rest, Split.join '/' (segments.map Segment.text) = c :: rest ∧ isSegmentChar c = true := by
  cases segments with
  | nil => exact absurd rfl hne
  | cons segment rest =>
    obtain ⟨c, name, hname⟩ := List.exists_cons_of_ne_nil segment.ne_nil
    have hc : isSegmentChar c = true := segment.chars c (hname ▸ List.mem_cons_self)
    cases rest with
    | nil => exact ⟨c, name, hname, hc⟩
    | cons next rest =>
      refine ⟨c, name ++ '/' :: Split.join '/' ((next :: rest).map Segment.text), ?_, hc⟩
      rw [List.map_cons, Split.join_cons '/' _ (by simp), hname, List.cons_append]

theorem head_segments {segments : List Segment} (hne : segments ≠ []) :
    (Split.join '/' (segments.map Segment.text)).head? ≠ some '/' := by
  obtain ⟨c, rest, hjoin, hc⟩ := exists_join_segments hne
  rw [hjoin]
  intro hhead
  cases Option.some.inj hhead
  exact absurd hc (by decide)

/-- A path is resolved by putting its segments behind those of the base. -/
theorem resolvePath_segments (base : List Segment) {path : List Segment} (hpath : path ≠ []) :
    resolvePath ('/' :: Split.join '/' (base.map Segment.text ++ [[]]))
        (Split.join '/' (path.map Segment.text)) =
      '/' :: Split.join '/' ((base ++ path).map Segment.text) := by
  obtain ⟨front, last, rfl⟩ : ∃ front last, path = front ++ [last] :=
    ⟨path.dropLast, path.getLast hpath, (List.dropLast_concat_getLast hpath).symm⟩
  have hdots : ∀ s ∈ [] :: (base ++ (front ++ [last])).map Segment.text,
      s ≠ ['.'] ∧ s ≠ ['.', '.'] := by
    refine List.forall_mem_cons.mpr ⟨⟨nofun, nofun⟩, fun s hs => ?_⟩
    obtain ⟨segment, -, rfl⟩ := List.mem_map.mp hs
    exact ⟨segment.ne_dot, segment.ne_dots⟩
  have hlast : ([] :: (base ++ (front ++ [last])).map Segment.text).getLast? = some last.text := by
    rw [← List.append_assoc, List.map_append, ← List.cons_append]
    exact List.getLast?_concat
  have hstart : ([] :: (base.map Segment.text ++ [[]])).getLast? = some [] := by
    rw [← List.cons_append]
    exact List.getLast?_concat
  unfold resolvePath
  rw [if_neg (head_segments hpath)]
  simp only [segments, on_segments hpath, on_base, hstart, if_true, List.cons_append,
    dropEmptyInner_segments, followDots_of_forall hdots, hlast, Option.some.injEq, last.ne_dot,
    last.ne_dots, or_self, if_false]
  rw [joinSegments, Split.join_cons '/' [] (by simp)]
  rfl

/-- What is put together of a site and a path. -/
theorem text_site (site : Site) (path : List Char) :
    text { scheme := site.scheme, authority := site.authority, path := '/' :: path } =
      site.text ++ '/' :: path := by
  have hscheme : site.scheme.isEmpty = false := by
    unfold Site.scheme
    cases site.secure <;> rfl
  have hauthority : site.authority.isEmpty = false := by simpa using site.authority_ne_nil
  simp [text, hscheme, hauthority, Site.text]

theorem isPathChar_segments {segments : List Segment} :
    ∀ s ∈ segments.map Segment.text, ∀ c ∈ s, IsPathChar c := by
  intro s hs c hc
  obtain ⟨segment, -, rfl⟩ := List.mem_map.mp hs
  exact .inr (segment.chars c hc)

/-- The segments of a relative path come behind those of the base. -/
theorem resolve_segments (site : Site) (base : List Segment) {path : List Segment}
    (hpath : path ≠ []) :
    resolve (site.text ++ '/' :: Split.join '/' (base.map Segment.text ++ [[]]))
        (Split.join '/' (path.map Segment.text)) =
      .ok (site.place (base ++ path)) := by
  have hbaseChars : ∀ c ∈ '/' :: Split.join '/' (base.map Segment.text ++ [[]]), IsPathChar c := by
    refine List.forall_mem_cons.mpr ⟨.inl rfl, Split.forall_mem_join (.inl rfl) ?_⟩
    exact List.forall_mem_append.mpr ⟨isPathChar_segments, by simp⟩
  have hbase :
      (site.text ++ '/' :: Split.join '/' (base.map Segment.text ++ [[]])).isEmpty = false := by
    simp
  have hrelative : (Split.join '/' (path.map Segment.text)).isEmpty = false := by
    obtain ⟨c, rest, hjoin, -⟩ := exists_join_segments hpath
    rw [hjoin, List.isEmpty_cons]
  have hparse := parse_path site.scheme
    (Split.forall_mem_join (.inl rfl) isPathChar_segments) (head_segments hpath)
  have hhierarchical : hierarchical.contains (String.ofList site.scheme) = true := by
    unfold Site.scheme
    cases site.secure <;> decide
  rw [resolve, hbase, hrelative, parse_site site hbaseChars]
  change (parse site.scheme (Split.join '/' (path.map Segment.text)) >>= fun r => _) = _
  rw [hparse]
  simp only [bind, Except.bind, ne_eq, not_true_eq_false, decide_false, hhierarchical, hrelative,
    Bool.not_true, Bool.or_self, Bool.false_eq_true, if_false, List.isEmpty_nil, Bool.false_and,
    resolvePath_segments base hpath, text_site]
  rfl

end Reference

/-! ## Endpoints -/

theorem dropWhile_slashes (slashes : Nat) {s : List Char} (hs : s.head? ≠ some '/') :
    (List.replicate slashes '/' ++ s).dropWhile (· == '/') = s := by
  have hslashes : ∀ c ∈ List.replicate slashes '/', (c == '/') = true := by
    intro c hc
    simp [List.eq_of_mem_replicate hc]
  rw [List.dropWhile_append_of_pos hslashes]
  cases s with
  | nil => rfl
  | cons c s =>
    refine List.dropWhile_cons_of_neg ?_
    simpa using fun hc => hs (congrArg some hc)

/-- A base URL ends with a character of its authority or of its last segment. -/
theorem Site.getLast_base (site : Site) (base : List Segment) :
    (site.text ++ base.flatMap ('/' :: ·.text)).getLast? ≠ some '/' := by
  have hplain {front part : List Char} (hne : part ≠ []) (hpart : ∀ c ∈ part, IsPlain c) :
      (front ++ part).getLast? ≠ some '/' := by
    intro hlast
    rw [List.getLast?_append, List.getLast?_eq_some_getLast hne, Option.some_or] at hlast
    have hmem := List.getLast_mem hne
    rw [Option.some.inj hlast] at hmem
    exact (hpart '/' hmem).2 (by decide)
  by_cases hbase : base = []
  · subst hbase
    have htext : site.text ++ [] = site.scheme ++ [':', '/', '/'] ++ site.authority := by
      simp [Site.text]
    rw [List.flatMap_nil, htext]
    exact hplain site.authority_ne_nil site.plain_authority
  · obtain ⟨front, last, rfl⟩ : ∃ front last, base = front ++ [last] :=
      ⟨base.dropLast, base.getLast hbase, (List.dropLast_concat_getLast hbase).symm⟩
    have htext : site.text ++ (front ++ [last]).flatMap ('/' :: ·.text) =
        site.text ++ front.flatMap ('/' :: ·.text) ++ ['/'] ++ last.text := by
      simp
    rw [htext]
    exact hplain last.ne_nil last.plain

/-- Slashes at the end of a base URL are left out. -/
theorem Client.baseUrl_site {c : Client} {site : Site} {base : List Segment} {slashes : Nat}
    (h : c.settings.baseUrl = site.baseUrl base slashes) :
    c.baseUrl.toList = site.text ++ base.flatMap ('/' :: ·.text) := by
  have hlast : (site.text ++ base.flatMap ('/' :: ·.text)).reverse.head? ≠ some '/' := by
    rw [List.head?_reverse]
    exact site.getLast_base base
  rw [baseUrl, h, Site.baseUrl, String.toList_ofList, String.toList_ofList, List.reverse_append,
    List.reverse_replicate, dropWhile_slashes slashes hlast, List.reverse_reverse]

/-- Segments, each behind a slash, and one more slash. -/
theorem flatMap_segments (base : List Segment) :
    base.flatMap ('/' :: ·.text) ++ ['/'] =
      '/' :: Split.join '/' (base.map Segment.text ++ [[]]) := by
  induction base with
  | nil => rfl
  | cons segment base ih =>
    rw [List.map_cons, List.cons_append, Split.join_cons '/' _ (by simp), ← ih]
    simp

/-- An endpoint is found behind all segments of the base URL. -/
theorem Client.resolve_endpoint {c : Client} {site : Site} {base path : List Segment}
    {slashes slashes' : Nat} (h : c.settings.baseUrl = site.baseUrl base slashes)
    (hpath : path ≠ []) :
    c.resolve (endpoint slashes' path) = .ok (site.place (base ++ path)) := by
  have hpath' : (endpoint slashes' path).toList.dropWhile (· == '/') =
      Split.join '/' (path.map Segment.text) := by
    rw [endpoint, String.toList_ofList, dropWhile_slashes slashes' (Reference.head_segments hpath)]
  rw [resolve, baseUrl_site h, hpath', List.append_assoc, flatMap_segments,
    Reference.resolve_segments site base hpath]

example :
    (Client.resolve { settings := { baseUrl := "https://localhost:8007/pbs/eu//" } }
      "//access/ticket").toOption =
      some "https://localhost:8007/pbs/eu/access/ticket".toList := by
  decide +kernel

end SecondFactor.Http
