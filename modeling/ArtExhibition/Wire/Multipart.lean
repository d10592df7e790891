import ArtExhibition.Wire.Bytes
import Mathlib.Data.List.DropRight
import Mathlib.Data.List.TakeWhile
import Mathlib.Tactic.SplitIfs

/-!
# Multipart form data

Reading and writing `multipart/form-data`. A body is cut at its delimiters (a line break, two
dashes and the boundary), each at the first place where the next one occurs; between two
delimiters is a part, with header lines, an empty line and its content. A form has at least one
part, so a close delimiter alone is none. Folded header lines are not joined.

`parseForm_printForm`: a printed form is read back part by part, if no line break and no
delimiter occur where they are not meant, and if it has a part. The condition on a content is that the
dashed boundary does not occur in it.
-/

namespace Wire

/-! ## The first occurrence of a delimiter -/

section Delimiter

variable {α : Type} {d x y rest : List α} {c : α}

/-- No occurrence of `d` in `x ++ rest` starts in `x`. -/
def Fresh (d : List α) : List α → List α → Prop
  | [], _ => True
  | b :: x, rest => ¬ d <+: b :: (x ++ rest) ∧ Fresh d x rest

theorem Fresh.append (hx : Fresh d x (y ++ rest)) (hy : Fresh d y rest) : Fresh d (x ++ y) rest := by
  induction x with
  | nil => exact hy
  | cons b x ih =>
    obtain ⟨hb, hx⟩ := hx
    refine ⟨?_, ih hx⟩
    change ¬ d <+: b :: (x ++ y ++ rest)
    rwa [List.append_assoc]

/-- An occurrence shows its first element where it starts. -/
theorem fresh_of_not_mem (h : c ∉ x) : Fresh (c :: d) x rest := by
  induction x with
  | nil => trivial
  | cons b x ih =>
    refine ⟨fun hstarts => ?_, ih fun hc => h (List.mem_cons_of_mem b hc)⟩
    rw [(List.cons_prefix_cons.1 hstarts).1] at h
    exact h List.mem_cons_self

/-- What does not have `c` ends before `c`. -/
theorem prefix_of_not_mem (hd : c ∉ d) (h : d <+: x ++ c :: rest) : d <+: x := by
  induction d generalizing x with
  | nil => exact List.nil_prefix
  | cons a d ih =>
    cases x with
    | nil =>
      rw [(List.cons_prefix_cons.1 h).1] at hd
      exact absurd List.mem_cons_self hd
    | cons b x =>
      rw [List.cons_append, List.cons_prefix_cons] at h
      exact List.cons_prefix_cons.2 ⟨h.1, ih (fun hc => hd (List.mem_cons_of_mem a hc)) h.2⟩

/-- A delimiter whose first element does not recur in it overlaps with no other. -/
theorem fresh_of_absent (hd : c ∉ d) (h : ¬ c :: d <:+: x) : Fresh (c :: d) x (c :: d ++ rest) := by
  induction x with
  | nil => trivial
  | cons b x ih =>
    refine ⟨fun hstarts => ?_, ih fun hoccurs => h (hoccurs.trans (List.suffix_cons b x).isInfix)⟩
    obtain ⟨hc, hstarts⟩ := List.cons_prefix_cons.1 hstarts
    exact h (List.cons_prefix_cons.2 ⟨hc, prefix_of_not_mem hd hstarts⟩).isInfix

theorem Fresh.length_le {before after : List α} (h : Fresh d x rest)
    (heq : x ++ rest = before ++ (d ++ after)) : x.length ≤ before.length := by
  induction x generalizing before with
  | nil => exact Nat.zero_le _
  | cons b x ih =>
    obtain ⟨hb, hx⟩ := h
    cases before with
    | nil =>
      rw [List.cons_append, List.nil_append] at heq
      exact absurd ⟨after, heq.symm⟩ hb
    | cons a before =>
      rw [List.cons_append, List.cons_append, List.cons.injEq] at heq
      exact Nat.succ_le_succ (ih hx heq.2)

/-- **The first occurrence** of a delimiter is the one that stands there. -/
theorem dropInfix?_append [BEq α] [LawfulBEq α] (h : Fresh d x (d ++ rest)) :
    (x ++ (d ++ rest)).dropInfix? d = some (x, rest) := by
  rw [List.dropInfix?_eq_some_iff]
  refine ⟨⟨d, (List.append_assoc x d rest).symm, BEq.rfl⟩, fun before d' after heq hd => ?_⟩
  rw [eq_of_beq hd, List.append_assoc] at heq
  exact h.length_le heq

theorem dropPrefix?_append [BEq α] [LawfulBEq α] (d rest : List α) : (d ++ rest).dropPrefix? d = some rest :=
  List.dropPrefix?_append_of_beq rest BEq.rfl

theorem dropPrefix?_eq_none [BEq α] [LawfulBEq α] {l : List α} (h : ¬ d <+: l) : l.dropPrefix? d = none := by
  rw [Option.eq_none_iff_forall_not_mem]
  intro rest hrest
  obtain ⟨d', rfl, hd⟩ := List.dropPrefix?_eq_some_iff.1 hrest
  rw [eq_of_beq hd] at h
  exact h (List.prefix_append d rest)

theorem length_of_dropPrefix? [BEq α] {l : List α} (h : l.dropPrefix? d = some rest) :
    rest.length ≤ l.length := by
  obtain ⟨d', rfl, -⟩ := List.dropPrefix?_eq_some_iff.1 h
  rw [List.length_append]
  exact Nat.le_add_left _ _

theorem length_of_dropInfix? [BEq α] {l : List α} (hd : d ≠ []) (h : l.dropInfix? d = some (x, rest)) :
    rest.length < l.length := by
  obtain ⟨⟨d', rfl, hd'⟩, -⟩ := List.dropInfix?_eq_some_iff.1 h
  have hlength := List.length_eq_of_beq hd'
  have hpos := List.length_pos_of_ne_nil hd
  rw [List.length_append, List.length_append]
  omega

end Delimiter

/-! ## Header fields -/

abbrev quote : UInt8 := 34
abbrev colon : UInt8 := 58
abbrev semicolon : UInt8 := 59
abbrev equals : UInt8 := 61
abbrev backslash : UInt8 := 92

def isBlank (b : UInt8) : Bool := b = 32 || b = 9

def trim (bytes : Bytes) : Bytes := (bytes.dropWhile isBlank).rdropWhile isBlank

/-- In lower case, as names are compared. -/
def lower (bytes : Bytes) : Bytes := bytes.map fun b => if 65 ≤ b ∧ b ≤ 90 then b + 32 else b

/-- A byte of a token. -/
def isToken (b : UInt8) : Bool := decide (32 < b ∧ b < 127) && !(utf8 "()<>@,;:\\\"/[]?=").contains b

/-- After the opening quote: the content of a quoted string, and what follows it. A byte after a
backslash stands for itself. -/
def parseQuoted (escaped : Bool) : Bytes → Option (Bytes × Bytes)
  | [] => none
  | b :: bytes =>
    if escaped then (parseQuoted false bytes).map fun (content, rest) => (b :: content, rest)
    else if b = quote then some ([], bytes)
    else if b = backslash then parseQuoted true bytes
    else (parseQuoted false bytes).map fun (content, rest) => (b :: content, rest)

/-- A parameter `name=value` or `name="value"`, and what follows it. -/
def parseParameter (bytes : Bytes) : Option ((Bytes × Bytes) × Bytes) :=
  match (bytes.dropWhile isToken).dropPrefix? [equals] with
  | none => none
  | some value =>
    match value.dropPrefix? [quote] with
    | some quoted => (parseQuoted false quoted).map fun (content, rest) =>
      ((lower (bytes.takeWhile isToken), content), rest)
    | none => some ((lower (bytes.takeWhile isToken), value.takeWhile isToken), value.dropWhile isToken)

theorem length_parseQuoted {escaped : Bool} {bytes content rest : Bytes}
    (h : parseQuoted escaped bytes = some (content, rest)) : rest.length ≤ bytes.length := by
  induction bytes generalizing escaped content with
  | nil => cases h
  | cons b bytes ih =>
    rw [List.length_cons]
    rw [parseQuoted] at h
    split_ifs at h
    · obtain ⟨⟨content', rest'⟩, h', heq⟩ := Option.map_eq_some_iff.1 h
      cases heq
      exact Nat.le_succ_of_le (ih h')
    · cases h
      exact Nat.le_succ _
    · exact Nat.le_succ_of_le (ih h)
    · obtain ⟨⟨content', rest'⟩, h', heq⟩ := Option.map_eq_some_iff.1 h
      cases heq
      exact Nat.le_succ_of_le (ih h')

theorem length_parseParameter {bytes rest : Bytes} {parameter : Bytes × Bytes}
    (h : parseParameter bytes = some (parameter, rest)) : rest.length ≤ bytes.length := by
  unfold parseParameter at h
  have hdrop := List.length_dropWhile_le isToken bytes
  cases hvalue : (bytes.dropWhile isToken).dropPrefix? [equals] with
  | none => simp [hvalue] at h
  | some value =>
    have hlength := length_of_dropPrefix? hvalue
    rw [hvalue] at h
    dsimp only at h
    cases hquoted : value.dropPrefix? [quote] with
    | none =>
      rw [hquoted] at h
      cases h
      have := List.length_dropWhile_le isToken value
      omega
    | some quoted =>
      rw [hquoted] at h
      obtain ⟨⟨content, rest'⟩, hcontent, heq⟩ := Option.map_eq_some_iff.1 h
      cases heq
      have h₁ := length_of_dropPrefix? hquoted
      have h₂ := length_parseQuoted hcontent
      dsimp only
      omega

/-- Parameters, each after a semicolon. -/
def parseParameters (bytes : Bytes) : Option (List (Bytes × Bytes)) :=
  match _hbytes : bytes.dropWhile isBlank with
  | [] => some []
  | b :: bytes' =>
    if b = semicolon then
      match _h : parseParameter (bytes'.dropWhile isBlank) with
      | none => none
      | some (parameter, rest) => (parseParameters rest).map (parameter :: ·)
    else none
termination_by bytes.length
decreasing_by
  have h₁ := List.length_dropWhile_le isBlank bytes
  have h₂ := List.length_dropWhile_le isBlank bytes'
  have h₃ := length_parseParameter _h
  rw [_hbytes, List.length_cons] at h₁
  omega

/-- A value with parameters: `value; name=value; …`. -/
def parseValue (value : Bytes) : Option (Bytes × List (Bytes × Bytes)) :=
  (parseParameters (value.dropWhile (· ≠ semicolon))).map fun parameters =>
    (lower (trim (value.takeWhile (· ≠ semicolon))), parameters)

/-- A header line: the name of its field, and its value. -/
def parseLine (line : Bytes) : Option (Bytes × Bytes) :=
  match line.dropWhile (· ≠ colon) with
  | [] => none
  | _ :: value => some (lower (line.takeWhile (· ≠ colon)), trim value)

/-! ## Parts and forms -/

def crlf : Bytes := [13, 10]

def dashes : Bytes := [45, 45]

/-- What stands between two parts. -/
def delimiter (boundary : Bytes) : Bytes := crlf ++ (dashes ++ boundary)

structure Part where
  name : Bytes
  filename : Option Bytes
  contentType : Option Bytes
  content : Bytes
  deriving DecidableEq, Repr

/-- The header lines and the content of a part. -/
def parseLines (bytes : Bytes) : Option (List Bytes × Bytes) :=
  match bytes.dropPrefix? crlf with
  | some content => some ([], content)
  | none =>
    match _h : bytes.dropInfix? crlf with
    | some (line, rest) => (parseLines rest).map fun (lines, content) => (line :: lines, content)
    | none => if bytes = [] then some ([], []) else none
termination_by bytes.length
decreasing_by exact length_of_dropInfix? (by decide) _h

/-- A part, from its header lines and its content. -/
def readPart (lines : List Bytes) (content : Bytes) : Option Part := do
  let fields ← lines.mapM parseLine
  let disposition ← fields.lookup (utf8 "content-disposition")
  let (kind, parameters) ← parseValue disposition
  let name ← parameters.lookup (utf8 "name")
  if kind = utf8 "form-data" then
    return ⟨name, parameters.lookup (utf8 "filename"), fields.lookup (utf8 "content-type"), content⟩
  else none

/-- The parts after a delimiter, up to the close delimiter. -/
def parseParts (boundary bytes : Bytes) : Option (List Part) :=
  match bytes.dropPrefix? dashes with
  | some epilogue =>
    if epilogue.dropWhile isBlank = [] ∨ crlf <+: epilogue.dropWhile isBlank then some [] else none
  | none =>
    match _hstart : (bytes.dropWhile isBlank).dropPrefix? crlf with
    | none => none
    | some start =>
      match _hpart : start.dropInfix? (delimiter boundary) with
      | none => none
      | some (part, rest) => do
        let (lines, content) ← parseLines part
        let part ← readPart lines content
        let parts ← parseParts boundary rest
        return part :: parts
termination_by bytes.length
decreasing_by
  have h₁ := List.length_dropWhile_le isBlank bytes
  have h₂ := length_of_dropPrefix? _hstart
  have h₃ := length_of_dropInfix? (List.cons_ne_nil _ _) _hpart
  omega

/-- The parts of a form, of which there is at least one; what comes before the first delimiter is
ignored. -/
def parseForm (boundary body : Bytes) : Option (List Part) := do
  let (_, rest) ← (crlf ++ body).dropInfix? (delimiter boundary)
  let parts ← parseParts boundary rest
  if parts = [] then none else some parts

/-! ## Printing -/

def printParameter (name value : Bytes) : Bytes :=
  [semicolon, 32] ++ (name ++ ([equals, quote] ++ (value ++ [quote])))

def printLine (name value : Bytes) : Bytes := name ++ ([colon, 32] ++ value)

def Part.disposition (part : Part) : Bytes :=
  utf8 "form-data" ++ (printParameter (utf8 "name") part.name ++
    (part.filename.map (printParameter (utf8 "filename"))).getD [])

def Part.lines (part : Part) : List Bytes :=
  printLine (utf8 "Content-Disposition") part.disposition ::
    (part.contentType.map (printLine (utf8 "Content-Type"))).toList

/-- Header lines, an empty line and the content. -/
def printLines (lines : List Bytes) (content : Bytes) : Bytes := lines.flatMap (· ++ crlf) ++ (crlf ++ content)

def printPart (part : Part) : Bytes := printLines part.lines part.content

def printForm (boundary : Bytes) (parts : List Part) : Bytes :=
  parts.flatMap (fun part => dashes ++ boundary ++ (crlf ++ (printPart part ++ crlf))) ++
    (dashes ++ boundary ++ (dashes ++ crlf))

/-- A text between quotes. -/
def Quotable (bytes : Bytes) : Prop := ∀ b ∈ bytes, b ≠ 13 ∧ b ≠ quote ∧ b ≠ backslash

/-- A part that can stand between delimiters with this boundary. -/
structure Part.Clean (boundary : Bytes) (part : Part) : Prop where
  name : Quotable part.name
  filename : ∀ filename ∈ part.filename, Quotable filename
  contentType : ∀ contentType ∈ part.contentType, 13 ∉ contentType ∧ trim contentType = contentType
  content : ¬ dashes ++ boundary <:+: part.content

/-! ## Reading what was printed -/

theorem parseQuoted_append {value : Bytes} (h : Quotable value) (rest : Bytes) :
    parseQuoted false (value ++ quote :: rest) = some (value, rest) := by
  induction value with
  | nil => rfl
  | cons b value ih =>
    obtain ⟨-, hquote, hbackslash⟩ := h b List.mem_cons_self
    have hrest := ih fun b hb => h b (List.mem_cons_of_mem _ hb)
    rw [List.cons_append, parseQuoted, if_neg Bool.false_ne_true, if_neg hquote, if_neg hbackslash, hrest,
      Option.map_some]

/-- A name of a parameter, in lower case. -/
def IsName (name : Bytes) : Prop := name.all isToken = true ∧ lower name = name

instance (name : Bytes) : Decidable (IsName name) := inferInstanceAs (Decidable (_ ∧ _))

theorem parseParameter_quoted {name value : Bytes} (hname : IsName name) (hvalue : Quotable value)
    (rest : Bytes) :
    parseParameter (name ++ ([equals, quote] ++ (value ++ quote :: rest))) = some ((name, value), rest) := by
  have hdrop : (name ++ ([equals, quote] ++ (value ++ quote :: rest))).dropWhile isToken =
      [equals] ++ ([quote] ++ (value ++ quote :: rest)) := by
    rw [List.dropWhile_append_of_pos (List.all_eq_true.1 hname.1)]
    rfl
  have htake : (name ++ ([equals, quote] ++ (value ++ quote :: rest))).takeWhile isToken = name := by
    rw [List.takeWhile_append_of_pos (List.all_eq_true.1 hname.1)]
    exact List.append_nil name
  unfold parseParameter
  rw [hdrop, htake, dropPrefix?_append]
  dsimp only
  rw [dropPrefix?_append]
  dsimp only
  rw [parseQuoted_append hvalue, Option.map_some, hname.2]

theorem parseParameter_token {name value : Bytes} (hname : IsName name)
    (hvalue : ∀ b ∈ value, isToken b = true) :
    parseParameter (name ++ equals :: value) = some ((name, value), []) := by
  have hdrop : (name ++ equals :: value).dropWhile isToken = [equals] ++ value := by
    rw [List.dropWhile_append_of_pos (List.all_eq_true.1 hname.1)]
    rfl
  have htake : (name ++ equals :: value).takeWhile isToken = name := by
    rw [List.takeWhile_append_of_pos (List.all_eq_true.1 hname.1)]
    exact List.append_nil name
  have hquote : ¬ [quote] <+: value := by
    rintro ⟨rest, rfl⟩
    exact absurd (hvalue quote (by simp)) (by decide)
  unfold parseParameter
  rw [hdrop, htake, dropPrefix?_append]
  dsimp only
  rw [dropPrefix?_eq_none hquote]
  dsimp only
  rw [List.takeWhile_eq_self_iff.2 hvalue, List.dropWhile_eq_nil_iff.2 hvalue, hname.2]

/-- Reading one more parameter, whose name starts with a token's byte. -/
theorem parseParameters_cons {b : UInt8} {bytes rest : Bytes} {parameter : Bytes × Bytes}
    (hb : isToken b = true) (h : parseParameter (b :: bytes) = some (parameter, rest)) :
    parseParameters (semicolon :: 32 :: b :: bytes) = (parseParameters rest).map (parameter :: ·) := by
  have hblank : isBlank b = false := by
    cases hcase : isBlank b with
    | false => rfl
    | true =>
      rcases (by simpa [isBlank] using hcase : b = 32 ∨ b = 9) with rfl | rfl
      · exact absurd hb (by decide)
      · exact absurd hb (by decide)
  have hdrop : (32 :: b :: bytes).dropWhile isBlank = b :: bytes := by
    rw [List.dropWhile_cons_of_pos (by decide), List.dropWhile_cons_of_neg (by rw [hblank]; decide)]
  rw [parseParameters]
  split
  · rename_i hnil
    cases hnil
  · rename_i b' bytes' hcons
    cases hcons
    rw [if_pos rfl]
    split
    · rename_i hnone
      rw [hdrop, h] at hnone
      cases hnone
    · rename_i parameter' rest' hsome
      rw [hdrop, h] at hsome
      cases hsome
      rfl

theorem parseParameters_nil : parseParameters [] = some [] := by
  rw [parseParameters]
  rfl

theorem parseParameters_print {name value : Bytes} (hne : name ≠ []) (hname : IsName name)
    (hvalue : Quotable value) (rest : Bytes) :
    parseParameters (printParameter name value ++ rest) = (parseParameters rest).map ((name, value) :: ·) := by
  obtain ⟨b, name, rfl⟩ := List.exists_cons_of_ne_nil hne
  have h := parseParameters_cons (List.all_eq_true.1 hname.1 b List.mem_cons_self)
    (parseParameter_quoted hname hvalue rest)
  unfold printParameter
  simpa using h

/-- A value with one parameter, whose value is a token. -/
theorem parseValue_token {kind name value : Bytes} (hkind : ∀ b ∈ kind, decide (b ≠ semicolon) = true)
    (hlower : lower (trim kind) = kind) (hne : name ≠ []) (hname : IsName name)
    (hvalue : ∀ b ∈ value, isToken b = true) :
    parseValue (kind ++ semicolon :: 32 :: (name ++ equals :: value)) = some (kind, [(name, value)]) := by
  have hparameter := parseParameter_token hname hvalue
  have hparameters : parseParameters (semicolon :: 32 :: (name ++ equals :: value)) = some [(name, value)] := by
    obtain ⟨b, name, rfl⟩ := List.exists_cons_of_ne_nil hne
    have hcons := parseParameters_cons (List.all_eq_true.1 hname.1 b List.mem_cons_self) hparameter
    rwa [parseParameters_nil] at hcons
  have hstart : (semicolon :: 32 :: (name ++ equals :: value)).dropWhile (fun b => decide (b ≠ semicolon)) =
      semicolon :: 32 :: (name ++ equals :: value) := rfl
  have hnone : (semicolon :: 32 :: (name ++ equals :: value)).takeWhile
      (fun b => decide (b ≠ semicolon)) = [] := rfl
  unfold parseValue
  rw [List.dropWhile_append_of_pos hkind, List.takeWhile_append_of_pos hkind, hstart, hnone, List.append_nil,
    hparameters, Option.map_some, hlower]

/-- Nothing is trimmed of bytes without a blank at either end. -/
theorem trim_eq {bytes : Bytes} (hhead : ∀ b ∈ bytes.head?, isBlank b = false)
    (hlast : ∀ b ∈ bytes.getLast?, isBlank b = false) : trim bytes = bytes := by
  have hdrop : bytes.dropWhile isBlank = bytes := by
    cases bytes with
    | nil => rfl
    | cons b bytes => exact List.dropWhile_cons_of_neg (by rw [hhead b rfl]; decide)
  unfold trim
  rw [hdrop, List.rdropWhile_eq_self_iff]
  intro hne
  rw [hlast _ (List.getLast?_eq_some_getLast hne)]
  decide

/-- A value that starts with a blank is trimmed of it. -/
theorem trim_blank (bytes : Bytes) : trim (32 :: bytes) = trim bytes := by
  unfold trim
  rw [List.dropWhile_cons_of_pos (by decide)]

theorem parseLine_print {name value : Bytes} (hname : colon ∉ name) (hvalue : trim value = value) :
    parseLine (printLine name value) = some (lower name, value) := by
  have hall : ∀ b ∈ name, decide (b ≠ colon) = true := by
    intro b hb
    have hne : b ≠ colon := fun h => hname (h ▸ hb)
    simpa using hne
  unfold parseLine printLine
  rw [List.dropWhile_append_of_pos hall, List.takeWhile_append_of_pos hall]
  simp [trim_blank, hvalue]

/-- The disposition of a part is read back. -/
theorem parseValue_disposition {boundary : Bytes} {part : Part} (h : part.Clean boundary) :
    parseValue part.disposition = some (utf8 "form-data",
      (utf8 "name", part.name) :: (part.filename.map fun filename => (utf8 "filename", filename)).toList) := by
  have hname : IsName (utf8 "name") := by decide
  have hfilename : IsName (utf8 "filename") := by decide
  have hkind : ∀ b ∈ utf8 "form-data", decide (b ≠ semicolon) = true := forall_of_all (by decide)
  have hname' := h.name
  obtain ⟨name, filename, contentType, content⟩ := part
  have hparameters : parseParameters (printParameter (utf8 "name") name ++
      (filename.map (printParameter (utf8 "filename"))).getD []) =
      some ((utf8 "name", name) :: (filename.map fun filename => (utf8 "filename", filename)).toList) := by
    rw [parseParameters_print (by decide) hname hname']
    cases filename with
    | none =>
      rw [Option.map_none, Option.getD_none, parseParameters_nil]
      rfl
    | some filename =>
      rw [Option.map_some, Option.getD_some, ← List.append_nil (printParameter _ filename),
        parseParameters_print (by decide) hfilename (h.filename filename rfl), parseParameters_nil]
      rfl
  unfold parseValue Part.disposition
  rw [List.dropWhile_append_of_pos hkind, List.takeWhile_append_of_pos hkind]
  dsimp only
  have hstart : ∀ rest, (printParameter (utf8 "name") name ++ rest).dropWhile
      (fun b => decide (b ≠ semicolon)) =
      printParameter (utf8 "name") name ++ rest := fun _ => rfl
  have hnone : ∀ rest, (printParameter (utf8 "name") name ++ rest).takeWhile
      (fun b => decide (b ≠ semicolon)) = [] :=
    fun _ => rfl
  rw [hstart, hnone, hparameters]
  rfl

/-- A disposition starts with a letter and ends with a quote. -/
theorem trim_disposition (part : Part) : trim part.disposition = part.disposition := by
  have hquote : ∀ name value, (printParameter name value).getLast? = some quote := by
    intro name value
    simp only [printParameter, List.getLast?_append, List.getLast?_singleton, Option.some_or]
  have hlast : part.disposition.getLast? = some quote := by
    unfold Part.disposition
    rw [List.getLast?_append, List.getLast?_append, hquote]
    cases part.filename with
    | none => rfl
    | some filename => rw [Option.map_some, Option.getD_some, hquote, Option.some_or, Option.some_or]
  refine trim_eq (fun b hb => ?_) fun b hb => ?_
  · have hb' : 102 = b := Option.some.inj hb
    rw [← hb']
    decide
  · rw [hlast] at hb
    have hb' : quote = b := Option.some.inj hb
    rw [← hb']
    decide

/-- **A part is read back** from its lines and its content. -/
theorem readPart_lines {boundary : Bytes} {part : Part} (h : part.Clean boundary) :
    readPart part.lines part.content = some part := by
  have hdisposition : parseLine (printLine (utf8 "Content-Disposition") part.disposition) =
      some (utf8 "content-disposition", part.disposition) :=
    parseLine_print (by decide) (trim_disposition part)
  have hfields : part.lines.mapM parseLine = some ((utf8 "content-disposition", part.disposition) ::
      (part.contentType.map fun contentType => (utf8 "content-type", contentType)).toList) := by
    unfold Part.lines
    cases hcase : part.contentType with
    | none => simp [hdisposition]
    | some contentType =>
      have htype : parseLine (printLine (utf8 "Content-Type") contentType) =
          some (utf8 "content-type", contentType) :=
        parseLine_print (by decide) (h.contentType contentType hcase).2
      simp [hdisposition, htype]
  have hvalue := parseValue_disposition h
  obtain ⟨name, filename, contentType, content⟩ := part
  unfold readPart
  rw [hfields]
  simp only [Option.bind_eq_bind, Option.bind_some, List.lookup_cons_self, hvalue]
  cases filename <;> cases contentType <;> rfl

/-! ## Lines -/

/-- A line of a header: it has no line break in it, and starts neither with one nor with a dash. -/
def IsLine (line : Bytes) : Prop := 13 ∉ line ∧ ∃ b bytes, line = b :: bytes ∧ b ≠ 45

theorem parseLines_printLines {lines : List Bytes} (hlines : ∀ line ∈ lines, IsLine line) (content : Bytes) :
    parseLines (printLines lines content) = some (lines, content) := by
  induction lines with
  | nil =>
    have hstart : (printLines [] content).dropPrefix? crlf = some content := dropPrefix?_append crlf content
    rw [parseLines, hstart]
  | cons line lines ih =>
    obtain ⟨hbreak, b, bytes, rfl, -⟩ := hlines line List.mem_cons_self
    have hlines' := ih fun line hline => hlines line (List.mem_cons_of_mem _ hline)
    have hcons : printLines ((b :: bytes) :: lines) content =
        (b :: bytes) ++ (crlf ++ printLines lines content) := by
      simp [printLines]
    have hstart : ¬ crlf <+: (b :: bytes) ++ (crlf ++ printLines lines content) := by
      intro h
      rw [List.cons_append, crlf, List.cons_prefix_cons] at h
      rw [← h.1] at hbreak
      exact hbreak List.mem_cons_self
    have hfirst : ((b :: bytes) ++ (crlf ++ printLines lines content)).dropInfix? crlf =
        some (b :: bytes, printLines lines content) :=
      dropInfix?_append (fresh_of_not_mem hbreak)
    rw [hcons, parseLines, dropPrefix?_eq_none hstart]
    dsimp only
    split
    · rename_i line' rest' hsome
      rw [hfirst] at hsome
      cases hsome
      rw [hlines', Option.map_some]
    · rename_i hnone
      rw [hfirst] at hnone
      cases hnone

/-! ## Delimiters -/

section Form

variable {boundary : Bytes}

/-- No delimiter starts at a line break that no dashed boundary follows. -/
theorem fresh_crlf {rest : Bytes} (h : ¬ dashes ++ boundary <+: rest) :
    Fresh (delimiter boundary) crlf rest := by
  refine ⟨fun hstarts => ?_, fun hstarts => ?_, trivial⟩
  · have h₁ := (List.cons_prefix_cons.1 hstarts).2
    exact h (List.cons_prefix_cons.1 h₁).2
  · exact absurd (List.cons_prefix_cons.1 hstarts).1 (by decide)

/-- The first delimiter after the lines and the content of a part is the one that stands there. -/
theorem fresh_printLines (hboundary : 13 ∉ boundary) {lines : List Bytes} (hlines : ∀ line ∈ lines, IsLine line)
    {content : Bytes} (hcontent : ¬ dashes ++ boundary <:+: content) (rest : Bytes) :
    Fresh (delimiter boundary) (printLines lines content) (delimiter boundary ++ rest) := by
  have hdashes : (13 : UInt8) ∉ dashes ++ boundary := by simp [dashes, hboundary]
  induction lines with
  | nil =>
    -- the empty line, then the content
    change Fresh (delimiter boundary) (crlf ++ content) (delimiter boundary ++ rest)
    refine Fresh.append (fresh_crlf fun h => ?_) (fresh_of_absent ?_ fun h => ?_)
    · exact hcontent (prefix_of_not_mem hdashes h).isInfix
    · simp [hdashes]
    · exact hcontent (List.IsInfix.trans ⟨crlf, [], by simp [crlf]⟩ h)
  | cons line lines ih =>
    have hlines' := ih fun line hline => hlines line (List.mem_cons_of_mem _ hline)
    have hcons : printLines (line :: lines) content = line ++ (crlf ++ printLines lines content) := by
      simp [printLines]
    rw [hcons]
    refine Fresh.append (fresh_of_not_mem (hlines line List.mem_cons_self).1)
      (Fresh.append (fresh_crlf fun h => ?_) hlines')
    -- what follows the line starts with no dash
    cases lines with
    | nil => exact absurd (List.cons_prefix_cons.1 h).1 (by decide)
    | cons next lines =>
      obtain ⟨-, b, bytes, rfl, hb⟩ := hlines next (by simp)
      exact hb (List.cons_prefix_cons.1 h).1.symm

theorem Part.Clean.isLine {part : Part} (h : part.Clean boundary) : ∀ line ∈ part.lines, IsLine line := by
  have hvalue : ∀ name value, Quotable value → 13 ∉ name → 13 ∉ printParameter name value := by
    intro name value hquotable hname hmem
    simp only [printParameter, List.mem_append, List.mem_cons, List.not_mem_nil, or_false] at hmem
    rcases hmem with (h | h) | h | (h | h) | h | h
    · cases h
    · cases h
    · exact hname h
    · cases h
    · cases h
    · exact (hquotable 13 h).1 rfl
    · cases h
  have hdisposition : 13 ∉ part.disposition := by
    unfold Part.disposition
    simp only [List.mem_append, not_or]
    refine ⟨by decide, hvalue _ _ h.name (by decide), ?_⟩
    cases hcase : part.filename with
    | none => exact List.not_mem_nil
    | some filename => exact hvalue _ _ (h.filename filename hcase) (by decide)
  have hline : ∀ name value, 13 ∉ name → 13 ∉ value → 13 ∉ printLine name value := by
    intro name value hname hvalue
    have hcolon : (13 : UInt8) ≠ colon := by decide
    simp [printLine, hname, hvalue, hcolon]
  intro line hmem
  rcases List.mem_cons.1 hmem with rfl | hmem
  · exact ⟨hline _ _ (by decide) hdisposition, 67, _, rfl, by decide⟩
  · cases hcase : part.contentType with
    | none => simp [hcase] at hmem
    | some contentType =>
      rw [hcase, Option.map_some, Option.toList_some, List.mem_singleton] at hmem
      rw [hmem]
      exact ⟨hline _ _ (by decide) (h.contentType contentType hcase).1, 67, _, rfl, by decide⟩

/-- What follows the first delimiter of a printed form. -/
def printTail (boundary : Bytes) : List Part → Bytes
  | [] => dashes ++ crlf
  | part :: parts => crlf ++ (printPart part ++ (delimiter boundary ++ printTail boundary parts))

theorem crlf_printForm (parts : List Part) :
    crlf ++ printForm boundary parts = delimiter boundary ++ printTail boundary parts := by
  induction parts with
  | nil => simp [printForm, printTail, delimiter]
  | cons part parts ih =>
    have hcons : printForm boundary (part :: parts) =
        dashes ++ boundary ++ (crlf ++ (printPart part ++ (crlf ++ printForm boundary parts))) := by
      simp [printForm]
    rw [hcons, ih, printTail, delimiter]
    simp only [List.append_assoc]

/-- **Part by part**: a part up to the next delimiter, then the rest. -/
theorem parseParts_printTail (hboundary : 13 ∉ boundary) {parts : List Part}
    (hclean : ∀ part ∈ parts, part.Clean boundary) :
    parseParts boundary (printTail boundary parts) = some parts := by
  induction parts with
  | nil =>
    rw [printTail, parseParts, dropPrefix?_append]
    exact if_pos (.inr ⟨[], rfl⟩)
  | cons part parts ih =>
    have hpart := hclean part List.mem_cons_self
    have hrest := ih fun part hmem => hclean part (List.mem_cons_of_mem _ hmem)
    have hdashes : ¬ dashes <+: printTail boundary (part :: parts) := by
      intro h
      exact absurd (List.cons_prefix_cons.1 h).1 (by decide)
    have hstart : ((printTail boundary (part :: parts)).dropWhile isBlank).dropPrefix? crlf =
        some (printPart part ++ (delimiter boundary ++ printTail boundary parts)) :=
      dropPrefix?_append crlf _
    have hnext : (printPart part ++ (delimiter boundary ++ printTail boundary parts)).dropInfix?
        (delimiter boundary) =
        some (printPart part, printTail boundary parts) :=
      dropInfix?_append (fresh_printLines hboundary hpart.isLine hpart.content _)
    have hlines : parseLines (printPart part) = some (part.lines, part.content) :=
      parseLines_printLines hpart.isLine part.content
    rw [parseParts, dropPrefix?_eq_none hdashes]
    dsimp only
    split
    · rename_i hnone
      rw [hstart] at hnone
      cases hnone
    · rename_i start hsome
      rw [hstart] at hsome
      cases hsome
      split
      · rename_i hnone
        rw [hnext] at hnone
        cases hnone
      · rename_i bytes rest hsome
        rw [hnext] at hsome
        cases hsome
        simp [hlines, readPart_lines hpart, hrest]

/-- **A printed form is read back**, part by part, and refused if there is none. -/
theorem parseForm_printForm (hboundary : 13 ∉ boundary) {parts : List Part}
    (hclean : ∀ part ∈ parts, part.Clean boundary) :
    parseForm boundary (printForm boundary parts) = if parts = [] then none else some parts := by
  have hfirst : (delimiter boundary ++ printTail boundary parts).dropInfix? (delimiter boundary) =
      some ([], printTail boundary parts) :=
    dropInfix?_append (x := []) trivial
  have hparts := parseParts_printTail hboundary hclean
  unfold parseForm
  rw [crlf_printForm, hfirst]
  change (parseParts boundary (printTail boundary parts)).bind _ = _
  rw [hparts]
  rfl

end Form

end Wire
