import ArtExhibition.Proof.BuildRequest
import ArtExhibition.Wire.Multipart

/-!
# The multipart encoder writes a form

The pieces of `JSONParameterEncoder`'s multipart encoding are the parts of a form, printed
between delimiters (`multipartBody_eq`): a part for each parameter, with its name and the bytes
of its value, then a part for each media item. So a reader finds them again
(`multipart_decodable`), whenever the dashed boundary occurs in no value and no data, and what
stands in a header line does not break it. With no parameter and no media item the body is the close
delimiter alone, which is no form (`empty_not_decodable`).
-/

namespace ArtExhibition.Networking

open Machine Wire

variable {foundation : Foundation} {uuid : UUIDString}

/-! ## The body as a form -/

/-- The part of a parameter. -/
def parameterFormPart (entry : String × ParameterValue) : Part :=
  ⟨utf8 entry.1, none, none, utf8 entry.2.description⟩

/-- The part of a media item. -/
def mediaFormPart (photo : Media) : Part :=
  ⟨utf8 photo.key, some (utf8 photo.filename), some (utf8 photo.mimeType), photo.data⟩

/-- The parts of the parameters in the order of the dictionary, then those of the media. -/
def formParts (parameters : Option Parameters) (media : Option (List Media)) : List Part :=
  ((parameters.map Parameters.entries).getD []).map parameterFormPart ++ (media.getD []).map mediaFormPart

theorem utf8_lineBreak : utf8 lineBreak = crlf := rfl

theorem utf8_dashes : utf8 "--" = dashes := rfl

theorem description_of_asString {value : ParameterValue} {text : String} (h : value.asString = some text) :
    value.description = text := by
  cases value with
  | string value => exact Option.some.inj h
  | other description isJSON => cases h

/-- The piece of a string parameter is a delimiter line, its part and a line break. -/
theorem parameterPart_eq (boundary : String) {entry : String × ParameterValue} {text : String}
    (h : entry.2.asString = some text) :
    parameterPart boundary entry =
      .ok (dashes ++ utf8 boundary ++ (crlf ++ (printPart (parameterFormPart entry) ++ crlf))) := by
  have hline : utf8 "Content-Disposition: form-data; name=\"" =
      utf8 "Content-Disposition" ++ ([colon, 32] ++ (utf8 "form-data" ++ ([semicolon, 32] ++ (utf8 "name" ++
        [equals, quote])))) := rfl
  have hquote : utf8 "\"" = [quote] := rfl
  unfold parameterPart
  rw [h]
  refine congrArg Except.ok ?_
  simp [parameterFormPart, description_of_asString h, utf8_append, utf8_lineBreak, utf8_dashes, hline, hquote,
    printPart, printLines, Part.lines, Part.disposition, printLine, printParameter]

theorem mediaPart_eq (boundary : String) (photo : Media) :
    mediaPart boundary photo =
      dashes ++ utf8 boundary ++ (crlf ++ (printPart (mediaFormPart photo) ++ crlf)) := by
  have hline : utf8 "Content-Disposition: form-data; name=\"" =
      utf8 "Content-Disposition" ++ ([colon, 32] ++ (utf8 "form-data" ++ ([semicolon, 32] ++ (utf8 "name" ++
        [equals, quote])))) := rfl
  have hfilename : utf8 "\"; filename=\"" =
      [quote] ++ ([semicolon, 32] ++ (utf8 "filename" ++ [equals, quote])) := rfl
  have htype : utf8 "Content-Type: " = utf8 "Content-Type" ++ [colon, 32] := rfl
  have hquote : utf8 "\"" = [quote] := rfl
  unfold mediaPart
  simp [mediaFormPart, utf8_append, utf8_lineBreak, utf8_dashes, hline, hfilename, htype, hquote,
    printPart, printLines, Part.lines, Part.disposition, printLine, printParameter]

/-- **The body is a form**, for a dictionary of strings. -/
theorem multipartBody_eq (boundary : String) {parameters : Option Parameters} (media : Option (List Media))
    (hstrings : ∀ p ∈ parameters, ∀ entry ∈ p.entries, entry.2.asString.isSome) :
    multipartBody boundary parameters media =
      .ok (printForm (utf8 boundary) (formParts parameters media)) := by
  have hentries : ∀ entry ∈ (parameters.map Parameters.entries).getD [], parameterPart boundary entry =
      .ok (dashes ++ utf8 boundary ++ (crlf ++ (printPart (parameterFormPart entry) ++ crlf))) := by
    intro entry hentry
    obtain ⟨text, htext⟩ : ∃ text, entry.2.asString = some text := by
      cases parameters with
      | none => cases hentry
      | some p => exact Option.isSome_iff_exists.1 (hstrings p rfl entry hentry)
    exact parameterPart_eq boundary htext
  have hmedia : mediaPart boundary = fun photo =>
      dashes ++ utf8 boundary ++ (crlf ++ (printPart (mediaFormPart photo) ++ crlf)) :=
    funext (mediaPart_eq boundary)
  unfold multipartBody formParts printForm
  rw [mapM_ok hentries, hmedia, List.flatMap_append, List.flatMap_map, List.flatMap_map]
  refine congrArg Except.ok ?_
  simp only [utf8_append, utf8_lineBreak, utf8_dashes, List.append_assoc, List.flatMap_def]

/-! ## What a form can carry -/

/-- A text that can stand in a header line, between quotes. -/
def HeaderText (text : String) : Prop :=
  ∀ c ∈ text.toList, c ≠ '\r' ∧ c ≠ '\n' ∧ c ≠ '"' ∧ c ≠ '\\'

instance (text : String) : Decidable (HeaderText text) :=
  List.decidableBAll _ text.toList

/-- The dashed boundary does not occur in the text. -/
def Absent (boundary text : String) : Prop := ¬ ("--" ++ boundary).toList <:+: text.toList

instance (boundary text : String) : Decidable (Absent boundary text) := inferInstanceAs (Decidable (¬ _))

/-- A string parameter that a form with this boundary can carry. -/
structure CarriesParameter (boundary : String) (entry : String × ParameterValue) : Prop where
  key : HeaderText entry.1
  value : ∃ value, entry.2 = .string value ∧ Absent boundary value

/-- A media item that a form with this boundary can carry. -/
structure CarriesMedia (boundary : String) (photo : Media) : Prop where
  key : HeaderText photo.key
  filename : HeaderText photo.filename
  mimeType : HeaderText photo.mimeType
  mimeTypeStart : ∀ c ∈ photo.mimeType.toList.head?, c.isWhitespace = false
  mimeTypeEnd : ∀ c ∈ photo.mimeType.toList.getLast?, c.isWhitespace = false
  data : ¬ utf8 ("--" ++ boundary) <:+: photo.data

theorem quotable_of_headerText {text : String} (h : HeaderText text) : Quotable (utf8 text) := by
  intro b hb
  have hbyte : ∀ c : Char, IsASCII c → b = UInt8.ofNat c.toNat → c ∈ text.toList := by
    intro c hc hbc
    exact mem_of_mem_utf8 hc (hbc ▸ hb)
  refine ⟨fun hcr => ?_, fun hquote => ?_, fun hbackslash => ?_⟩
  · exact (h '\r' (hbyte '\r' (by decide) hcr)).1 rfl
  · exact (h '"' (hbyte '"' (by decide) hquote)).2.2.1 rfl
  · exact (h '\\' (hbyte '\\' (by decide) hbackslash)).2.2.2 rfl

/-- A blank byte at an end of a text is a blank there. -/
theorem trim_utf8 {text : String} (hhead : ∀ c ∈ text.toList.head?, c.isWhitespace = false)
    (hlast : ∀ c ∈ text.toList.getLast?, c.isWhitespace = false) : trim (utf8 text) = utf8 text := by
  have hblank : ∀ b, isBlank b = true →
      ∃ c : Char, IsASCII c ∧ b = UInt8.ofNat c.toNat ∧ c.isWhitespace = true := by
    intro b hb
    rcases (by simpa [isBlank] using hb : b = 32 ∨ b = 9) with rfl | rfl
    · exact ⟨' ', by decide, rfl, by decide⟩
    · exact ⟨'\t', by decide, rfl, by decide⟩
  refine trim_eq (fun b hb => ?_) fun b hb => ?_
  · by_contra hne
    obtain ⟨c, hc, rfl, hspace⟩ := hblank b (by simpa using hne)
    rw [hhead c (head?_of_head?_utf8 hc hb)] at hspace
    cases hspace
  · by_contra hne
    obtain ⟨c, hc, rfl, hspace⟩ := hblank b (by simpa using hne)
    rw [hlast c (getLast?_of_getLast?_utf8 hc hb)] at hspace
    cases hspace

/-! ## The boundary of a UUID -/

theorem isASCII_of_isAlphanum {c : Char} (h : c.isAlphanum = true) : IsASCII c := by
  change ((decide (c.val ≥ 65 ∧ c.val ≤ 90) || decide (c.val ≥ 97) && decide (c.val ≤ 122)) ||
    (decide (c.val ≥ 48) && decide (c.val ≤ 57))) = true at h
  simp only [Bool.or_eq_true, Bool.and_eq_true, decide_eq_true_eq, UInt32.le_iff_toNat_le] at h
  unfold IsASCII Char.toNat
  rcases h with (⟨-, h⟩ | ⟨-, h⟩) | ⟨-, h⟩
  · exact Nat.lt_of_le_of_lt h (by decide)
  · exact Nat.lt_of_le_of_lt h (by decide)
  · exact Nat.lt_of_le_of_lt h (by decide)

/-- Every character of a boundary is a letter, a digit or a dash. -/
theorem mem_boundaryOf {uuid : UUIDString} {c : Char} (h : c ∈ (boundaryOf uuid).toList) :
    c.isAlphanum = true ∨ c = '-' := by
  have hword : ∀ c ∈ "Boundary-".toList, c.isAlphanum = true ∨ c = '-' := forall_of_all (by decide)
  rw [boundaryOf, String.toList_append] at h
  rcases List.mem_append.1 h with h | h
  · exact hword c h
  · exact uuid.valid c h

theorem isASCII_boundary {uuid : UUIDString} {c : Char} (h : c ∈ (boundaryOf uuid).toList) : IsASCII c := by
  rcases mem_boundaryOf h with h | rfl
  · exact isASCII_of_isAlphanum h
  · decide

theorem break_not_mem_boundary (uuid : UUIDString) : 13 ∉ utf8 (boundaryOf uuid) := by
  intro h
  have hcr : '\r' ∈ (boundaryOf uuid).toList := mem_of_mem_utf8 (by decide) h
  rcases mem_boundaryOf hcr with h | h
  · exact absurd h (by decide)
  · exact absurd h (by decide)

/-! ## Decoding -/

theorem parameterFormPart_clean {entry : String × ParameterValue}
    (h : CarriesParameter (boundaryOf uuid) entry) :
    (parameterFormPart entry).Clean (utf8 (boundaryOf uuid)) := by
  obtain ⟨value, hvalue, habsent⟩ := h.value
  refine ⟨quotable_of_headerText h.key, fun _ h => (by cases h), fun _ h => (by cases h),
    fun hoccurs => habsent ?_⟩
  rw [parameterFormPart, hvalue, ← utf8_dashes, ← utf8_append] at hoccurs
  refine infix_of_utf8 (by simp) (fun c hc => ?_) hoccurs
  rw [String.toList_append] at hc
  rcases List.mem_append.1 hc with hc | hc
  · exact forall_of_all (show ("--".toList.all fun c => decide (IsASCII c)) = true by decide) c hc
  · exact isASCII_boundary hc

theorem mediaFormPart_clean {photo : Media} (h : CarriesMedia (boundaryOf uuid) photo) :
    (mediaFormPart photo).Clean (utf8 (boundaryOf uuid)) := by
  refine ⟨quotable_of_headerText h.key, fun _ hf => ?_, fun _ ht => ?_, fun hoccurs => h.data ?_⟩
  · rw [← Option.some.inj hf]
    exact quotable_of_headerText h.filename
  · rw [← Option.some.inj ht]
    exact ⟨fun hmem => (quotable_of_headerText h.mimeType 13 hmem).1 rfl,
      trim_utf8 h.mimeTypeStart h.mimeTypeEnd⟩
  · rwa [utf8_append]

/-- What is read of the body: its parts, unless it has none. -/
theorem multipart_read (foundation : Foundation) (uuid : UUIDString) {request : URLRequest} {url : URL}
    (hurl : request.url = some url) (parameters : Option Parameters) (path : Option String)
    (media : Option (List Media))
    (hparameters : ∀ p ∈ parameters, ∀ entry ∈ p.entries, CarriesParameter (boundaryOf uuid) entry)
    (hmedia : ∀ photos ∈ media, ∀ photo ∈ photos, CarriesMedia (boundaryOf uuid) photo) :
    ∃ request' body, multipartEncode foundation uuid request parameters path media = .ok request' ∧
      request'.httpBody = some (.multipart (boundaryOf uuid) body) ∧
      parseForm (utf8 (boundaryOf uuid)) body =
        if formParts parameters media = [] then none else some (formParts parameters media) := by
  have hstrings : ∀ p ∈ parameters, ∀ entry ∈ p.entries, entry.2.asString.isSome := by
    intro p hp entry hentry
    obtain ⟨value, hvalue, -⟩ := (hparameters p hp entry hentry).value
    rw [hvalue]
    rfl
  have hbody := multipartBody_eq (boundaryOf uuid) media hstrings
  have hclean : ∀ part ∈ formParts parameters media, part.Clean (utf8 (boundaryOf uuid)) := by
    intro part hpart
    rcases List.mem_append.1 hpart with hpart | hpart
    · obtain ⟨entry, hentry, rfl⟩ := List.mem_map.1 hpart
      cases parameters with
      | none => cases hentry
      | some p => exact parameterFormPart_clean (hparameters p rfl entry hentry)
    · obtain ⟨photo, hphoto, rfl⟩ := List.mem_map.1 hpart
      cases media with
      | none => cases hphoto
      | some photos => exact mediaFormPart_clean (hmedia photos rfl photo hphoto)
  have hencode : ∃ request',
      multipartEncode foundation uuid request parameters path media = .ok request' := by
    unfold multipartEncode
    rw [hurl]
    dsimp only
    rw [hbody]
    exact ⟨_, rfl⟩
  obtain ⟨request', hrequest⟩ := hencode
  obtain ⟨body, hwritten, rfl⟩ := multipartEncode_ok hurl hrequest
  rw [hbody, Except.ok.injEq] at hwritten
  have hread := parseForm_printForm (break_not_mem_boundary uuid) hclean
  rw [hwritten] at hread
  obtain ⟨fields, hfields⟩ := setContentTypeIfNil_eq
    { request with
      url := encodedURL foundation url none path
      httpBody := some (.multipart (boundaryOf uuid) body) }
      ("multipart/form-data; boundary=" ++ boundaryOf uuid)
  rw [hfields] at hrequest
  exact ⟨_, body, hrequest, rfl, hread⟩

/-- There is something to encode: an entry or a media item. -/
def HasPart (parameters : Option Parameters) (media : Option (List Media)) : Prop :=
  (∃ p ∈ parameters, p.entries ≠ []) ∨ ∃ photos ∈ media, photos ≠ []

theorem formParts_ne_nil {parameters : Option Parameters} {media : Option (List Media)}
    (h : HasPart parameters media) : formParts parameters media ≠ [] := by
  intro hnone
  obtain ⟨hentries, hphotos⟩ := List.append_eq_nil_iff.1 hnone
  rw [List.map_eq_nil_iff] at hentries hphotos
  rcases h with ⟨p, hp, hsome⟩ | ⟨photos, hmedia, hsome⟩
  · rw [Option.mem_def.1 hp] at hentries
    exact hsome hentries
  · rw [Option.mem_def.1 hmedia] at hphotos
    exact hsome hphotos

/-- **Multipart encoding is decodable**: the body is read as one part for each parameter, in the
order of the dictionary, and one for each media item, if there is one at all. -/
theorem multipart_decodable (foundation : Foundation) (uuid : UUIDString) {request : URLRequest} {url : URL}
    (hurl : request.url = some url) (parameters : Option Parameters) (path : Option String)
    (media : Option (List Media)) (hsome : HasPart parameters media)
    (hparameters : ∀ p ∈ parameters, ∀ entry ∈ p.entries, CarriesParameter (boundaryOf uuid) entry)
    (hmedia : ∀ photos ∈ media, ∀ photo ∈ photos, CarriesMedia (boundaryOf uuid) photo) :
    ∃ request' body, multipartEncode foundation uuid request parameters path media = .ok request' ∧
      request'.httpBody = some (.multipart (boundaryOf uuid) body) ∧
      parseForm (utf8 (boundaryOf uuid)) body = some (formParts parameters media) := by
  obtain ⟨request', body, hrequest, hbody, hread⟩ :=
    multipart_read foundation uuid hurl parameters path media hparameters hmedia
  rw [if_neg (formParts_ne_nil hsome)] at hread
  exact ⟨request', body, hrequest, hbody, hread⟩

/-- A title with a line break and dashes, no text at all, and a picture with a line break in its data. -/
theorem multipart_decodable_picture : ∃ request' body,
    multipartEncode rfcFoundation someUUID (URLRequest.ofURL museumURL)
      (some ⟨[("title", .string "Impression\r\n--Sunrise"), ("note", .string "")], by decide⟩)
      (some OBJECT_PATH_MUSEUM)
      (some [⟨"image", "imagefile.jpg", [255, 216, 13, 10, 45, 45], "image/jpeg"⟩]) = .ok request' ∧
    request'.httpBody = some (.multipart (boundaryOf someUUID) body) ∧
    parseForm (utf8 (boundaryOf someUUID)) body = some
      [⟨utf8 "title", none, none, utf8 "Impression\r\n--Sunrise"⟩, ⟨utf8 "note", none, none, []⟩,
        ⟨utf8 "image", some (utf8 "imagefile.jpg"), some (utf8 "image/jpeg"),
          [255, 216, 13, 10, 45, 45]⟩] := by
  have hurl : (URLRequest.ofURL museumURL).url = some museumURL := rfl
  refine multipart_decodable rfcFoundation someUUID hurl _ _ _ (.inl ⟨_, rfl, by simp⟩) ?_ ?_
  · intro p hp entry hentry
    cases hp
    rcases List.mem_cons.1 hentry with rfl | hentry
    · exact ⟨by decide, _, rfl, by decide⟩
    · rw [List.mem_singleton.1 hentry]
      exact ⟨by decide, _, rfl, by decide⟩
  · intro photos hphotos photo hphoto
    cases hphotos
    rw [List.mem_singleton.1 hphoto]
    refine ⟨by decide, by decide, by decide, fun c hc => ?_, fun c hc => ?_, by decide⟩
    · have hfirst : 'i' = c := Option.some.inj hc
      rw [← hfirst]
      decide
    · have hlast : 'g' = c := Option.some.inj hc
      rw [← hlast]
      decide

/-- **An empty dictionary and no media are not decodable**: the body has no part. -/
theorem empty_not_decodable : ¬ ∃ request' body,
    multipartEncode rfcFoundation someUUID (URLRequest.ofURL museumURL) (some ⟨[], by decide⟩) none none =
      .ok request' ∧
    request'.httpBody = some (.multipart (boundaryOf someUUID) body) ∧
    parseForm (utf8 (boundaryOf someUUID)) body = some (formParts (some ⟨[], by decide⟩) none) := by
  rintro ⟨request, body, hrequest, hbody, hread⟩
  have hurl : (URLRequest.ofURL museumURL).url = some museumURL := rfl
  obtain ⟨request', body', hrequest', hbody', hread'⟩ :=
    multipart_read rfcFoundation someUUID hurl (some ⟨[], by decide⟩) none none
      (by rintro _ ⟨⟩ _ ⟨⟩) (by rintro _ ⟨⟩)
  obtain rfl := Except.ok.inj (hrequest.symm.trans hrequest')
  rw [hbody, Option.some.injEq, HTTPBody.multipart.injEq] at hbody'
  rw [hbody'.2, hread'] at hread
  cases hread

end ArtExhibition.Networking
