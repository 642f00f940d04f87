import Campus.Configuration.Basic
import Campus.Ingest.Location
import Campus.Proofs.Url.Percent
/-!
# Addresses of lookups

A lookup service is asked at its own address with one more path segment, which is decoded to the
building's address. That segment has nothing in it that would end or split it, and it is no dot
segment, since it would be decoded to dots then. So every building has a lookup of its own.
-/

namespace Campus
namespace Url

/-- The segments of a path without an empty last one. -/
def settled (segments : List String) : List String :=
  if segments.getLast? = some "" then segments.dropLast else segments

/-- A text that names something below a path: not empty, not a dot or two dots, and without
controls. -/
structure IsSegmentName (name : String) : Prop where
  nonEmpty : name ≠ ""
  notSingleDot : name ≠ "."
  notDoubleDot : name ≠ ".."
  noControl : ∀ c ∈ name.toList, 0x20 ≤ c.toNat

/-- The place that a segment takes in a scheme. -/
def segmentPlace (scheme : String) : Percent.Place :=
  if isSpecialScheme scheme then .specialSegment else .segment

/-- A text as it is written as a segment. -/
def segmentText (scheme name : String) : String :=
  Percent.encodeText (segmentPlace scheme) name

/-- A written segment is decoded to the text that it is written for. -/
theorem text?_decode_segmentText (scheme name : String) :
    Bytes.text? (Percent.decode (segmentText scheme name).toList) = some name := by
  have noPercent : (segmentPlace scheme).keeps '%' = false := by
    unfold segmentPlace
    split <;> decide
  rw [segmentText, Percent.encodeText, String.toList_ofList, Percent.decode_encode noPercent,
    String.ofList_toList, Bytes.text?_ofText]

/-- Different texts are written as different segments. -/
theorem segmentText_injective {scheme left right : String}
    (same : segmentText scheme left = segmentText scheme right) : left = right := by
  have decoded := text?_decode_segmentText scheme left
  rw [same, text?_decode_segmentText] at decoded
  exact (Option.some.inj decoded).symm

/-- The forms of a dot are decoded to a dot. -/
theorem text?_decode_of_isSingleDot {segment : String} (dot : isSingleDot segment = true) :
    Bytes.text? (Percent.decode segment.toList) = some "." := by
  have all : ∀ form ∈ [".", "%2e", "%2E"], Percent.decode form.toList = Bytes.ofText "." := by
    decide
  rw [all segment (List.contains_iff_mem.1 dot), Bytes.text?_ofText]

/-- The forms of two dots are decoded to two dots. -/
theorem text?_decode_of_isDoubleDot {segment : String} (dots : isDoubleDot segment = true) :
    Bytes.text? (Percent.decode segment.toList) = some ".." := by
  have all : ∀ form ∈ ["..", "%2e%2e", "%2e%2E", "%2E%2e", "%2E%2E", "%2e.", "%2E.", ".%2e",
      ".%2E"], Percent.decode form.toList = Bytes.ofText ".." := by decide
  rw [all segment (List.contains_iff_mem.1 dots), Bytes.text?_ofText]

/-- Following the written segment of a name appends it. -/
theorem follow_segmentText {scheme name : String} (named : IsSegmentName name)
    (notFile : scheme ≠ "file") (segments : List String) :
    follow scheme segments (segmentText scheme name) true =
      segments ++ [segmentText scheme name] := by
  have decoded := text?_decode_segmentText scheme name
  have noDot : ¬isSingleDot (segmentText scheme name) = true := fun dot =>
    named.notSingleDot (Option.some.inj (decoded.symm.trans (text?_decode_of_isSingleDot dot)))
  have noDots : ¬isDoubleDot (segmentText scheme name) = true := fun dots =>
    named.notDoubleDot (Option.some.inj (decoded.symm.trans (text?_decode_of_isDoubleDot dots)))
  unfold follow
  rw [if_neg noDots, if_neg noDot, if_neg (by simp [notFile])]

/-- Nothing in a name is passed over. -/
theorem filter_isIgnored {name : String} (named : IsSegmentName name) :
    name.toList.filter (fun c => !isIgnored c) = name.toList := by
  refine List.filter_eq_self.2 fun c member => ?_
  have large := named.noControl c member
  have other (control : Char) (small : control.toNat < 0x20) : c ≠ control := by
    rintro rfl
    omega
  simp only [isIgnored, Bool.not_eq_true', Bool.or_eq_false_iff, beq_eq_false_iff_ne]
  exact ⟨⟨other '\t' (by decide), other '\n' (by decide)⟩, other '\r' (by decide)⟩

/-- What a segment is appended to: the path without an empty last segment, also if that is its only
one. -/
theorem start_eq_settled {segments : List String} (noGap : "" ∉ segments.dropLast) :
    let base := if 1 < segments.length ∧ segments.getLast? = some "" then segments.dropLast
      else segments
    (if base = [""] then [] else base) = settled segments := by
  intro base
  have kept (list : List String) (noEmpty : list ≠ [""]) :
      (if list = [""] then [] else list) = list := if_neg noEmpty
  cases Decidable.em (segments.getLast? = some "") with
  | inr filled =>
    have same : base = segments := if_neg fun both => filled both.2
    rw [settled, if_neg filled, same, kept]
    rintro rfl
    exact filled rfl
  | inl empty =>
    rw [settled, if_pos empty]
    cases Nat.lt_or_ge 1 segments.length with
    | inl several =>
      have same : base = segments.dropLast := if_pos ⟨several, empty⟩
      rw [same, kept]
      intro only
      exact noGap (by rw [only]; exact List.mem_cons_self)
    | inr one =>
      have same : base = segments := if_neg fun both => absurd both.1 (by omega)
      have whole : segments = [""] := by
        match segments, one, empty with
        | [only], _, empty => exact congrArg ([·]) (Option.some.inj empty)
      rw [same, whole]
      rfl

/-- Appending a name to the path of an address appends its written segment. -/
theorem append_eq_some {url : Url} {segments : List String} {name : String}
    (path : url.path = .segments segments) (noGap : "" ∉ segments.dropLast)
    (notFile : url.scheme ≠ "file") (named : IsSegmentName name) :
    url.append name =
      some { url with path := .segments (settled segments ++ [segmentText url.scheme name]) } := by
  have notDots : ¬(name = "." ∨ name = "..") :=
    not_or.2 ⟨named.notSingleDot, named.notDoubleDot⟩
  have start := start_eq_settled noGap
  unfold append
  rw [path]
  simp only [if_neg notDots, filter_isIgnored named]
  simp only [start]
  exact congrArg (fun path => some { url with path := .segments path })
    (follow_segmentText named notFile (settled segments))

/-- Two addresses that only differ in the last segment of their paths are written differently. -/
theorem eq_of_text_eq {url : Url} {front : List String} {left right : String}
    (same : text { url with path := .segments (front ++ [left]) } =
      text { url with path := .segments (front ++ [right]) }) : left = right := by
  have onlyPath : pathText (.segments (front ++ [left])) =
      pathText (.segments (front ++ [right])) :=
    (String.append_right_inj _).1
      ((String.append_left_inj _).1 ((String.append_left_inj _).1 same))
  simp only [pathText, List.map_append, List.map_cons, List.map_nil, String.join_append,
    String.join_cons] at onlyPath
  exact (String.append_right_inj _).1
    ((String.append_left_inj _).1 ((String.append_right_inj _).1 onlyPath))

/-- A written segment in a scheme with fixed rules has nothing in it that ends or splits a
segment. -/
theorem separates_notMem_segmentText {scheme : String} (special : isSpecialScheme scheme = true)
    {c : Char} (separates : c ∈ ['/', '\\', '?', '#']) (name : String) :
    c ∉ (segmentText scheme name).toList := by
  obtain ⟨noEscape, dropped⟩ : (c ≠ '%' ∧ Percent.value? c = none) ∧
      Percent.Place.specialSegment.keeps c = false := by
    simp only [List.mem_cons, List.not_mem_nil, or_false] at separates
    rcases separates with rfl | rfl | rfl | rfl <;> decide
  rw [segmentText, Percent.encodeText, String.toList_ofList, segmentPlace, if_pos special]
  exact Percent.notMem_encode noEscape dropped name.toList

end Url

/-- The address of the lookup service in a valid configuration can be read and extended. -/
theorem Configuration.exists_base_of_validate {config : Configuration}
    (valid : config.validate = .ok ()) :
    ∃ base segments, Url.parse? config.lookupBase = some base ∧
      base.path = .segments segments := by
  unfold validate at valid
  split at valid
  · cases valid
  split at valid
  · cases valid
  next base parsed =>
    split at valid
    · cases valid
    next notRootless =>
      cases path : base.path with
      | segments segments => exact ⟨base, segments, parsed, path⟩
      | rootless text =>
        refine absurd ?_ notRootless
        rw [Url.isRootless, path]

namespace LookupService

/-- A service whose address has a path is accepted. -/
theorem ofText_eq_ok {address : String} {base : Url} {segments : List String}
    (parsed : Url.parse? address = some base) (path : base.path = .segments segments) :
    ofText address = .ok ⟨base⟩ := by
  have notRootless : ¬base.isRootless = true := by
    rw [Url.isRootless, path]
    exact Bool.false_ne_true
  unfold ofText
  rw [parsed]
  exact if_neg notRootless

/-- A valid configuration names a lookup service, and if that has a path without gaps in a scheme of
the web, an address is looked up at one more segment, which is decoded to the address. So different
addresses are looked up at different places. -/
theorem lookupUrl_of_validate {config : Configuration} (valid : config.validate = .ok ()) :
    ∃ base segments, Url.parse? config.lookupBase = some base ∧ base.path = .segments segments ∧
      ofText config.lookupBase = .ok ⟨base⟩ ∧
      (base.scheme ∈ ["http", "https"] → "" ∉ segments.dropLast →
        (∀ address, Url.IsSegmentName address → ∃ written,
          lookupUrl ⟨base⟩ address =
            .ok { base with path := .segments (Url.settled segments ++ [written]) } ∧
          Bytes.text? (Percent.decode written.toList) = some address ∧
          ∀ c ∈ ['/', '\\', '?', '#'], c ∉ written.toList) ∧
        ∀ left right leftUrl rightUrl, Url.IsSegmentName left → Url.IsSegmentName right →
          lookupUrl ⟨base⟩ left = .ok leftUrl → lookupUrl ⟨base⟩ right = .ok rightUrl →
          leftUrl.text = rightUrl.text → left = right) := by
  obtain ⟨base, segments, parsed, path⟩ := config.exists_base_of_validate valid
  refine ⟨base, segments, parsed, path, ofText_eq_ok parsed path, fun web noGap => ?_⟩
  have schemes : ∀ scheme ∈ ["http", "https"],
      Url.isSpecialScheme scheme = true ∧ scheme ≠ "file" := by decide
  obtain ⟨special, notFile⟩ := schemes base.scheme web
  have lookup (address : String) (named : Url.IsSegmentName address) :
      lookupUrl ⟨base⟩ address = .ok { base with
        path := .segments (Url.settled segments ++ [Url.segmentText base.scheme address]) } := by
    rw [lookupUrl, Url.append_eq_some path noGap notFile named]
  constructor
  · intro address named
    exact ⟨_, lookup address named, Url.text?_decode_segmentText base.scheme address,
      fun c separates => Url.separates_notMem_segmentText special separates address⟩
  · intro left right leftUrl rightUrl leftNamed rightNamed leftFound rightFound same
    rw [lookup left leftNamed] at leftFound
    rw [lookup right rightNamed] at rightFound
    cases leftFound
    cases rightFound
    exact Url.segmentText_injective (Url.eq_of_text_eq same)

/-- The default configuration is valid, and an address with a slash and a number sign in it is
looked up at one segment below its service. -/
theorem lookupUrl_of_default : Configuration.default.validate = .ok () ∧
    ∃ base, Url.parse? Configuration.default.lookupBase = some base ∧
      Url.IsSegmentName "Hall 7/8 #2" ∧ ∃ written,
        lookupUrl ⟨base⟩ "Hall 7/8 #2" = .ok { base with
          path := .segments (["api", "v1", "project_team203"] ++ [written]) } ∧
        Bytes.text? (Percent.decode written.toList) = some "Hall 7/8 #2" := by
  have read : Url.parse? Configuration.default.lookupBase = some {
      scheme := "http", authority := some ⟨"", none, "cs310.students.cs.ubc.ca", some 11316⟩
      path := .segments ["api", "v1", "project_team203"], query := none, fragment := none } := by
    decide +kernel
  have valid : Configuration.default.validate = .ok () := by
    rw [Configuration.validate, if_neg (by decide), read]
    rfl
  have noControl : ("Hall 7/8 #2".toList.all fun c => 0x20 ≤ c.toNat) = true := by decide
  have named : Url.IsSegmentName "Hall 7/8 #2" :=
    ⟨by decide, by decide, by decide, fun c member =>
      of_decide_eq_true (List.all_eq_true.1 noControl c member)⟩
  obtain ⟨base, segments, parsed, path, -, lookups⟩ := lookupUrl_of_validate valid
  obtain rfl := Option.some.inj (read.symm.trans parsed)
  obtain rfl := UrlPath.segments.inj path
  obtain ⟨written, found, decoded, -⟩ := (lookups (by decide) (by decide)).1 _ named
  exact ⟨valid, _, parsed, named, written, found, decoded⟩

end LookupService
end Campus
