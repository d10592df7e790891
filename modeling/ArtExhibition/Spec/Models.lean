import ArtExhibition.Spec.Loads
import ArtExhibition.Wire.Codable

/-!
# The models of the museum's API, and their decoding

The `Codable` structs with all their stored properties, in the order of the source and under its
coding keys; their conformance is the synthesized one. `JSONNull` has its own: it reads any value and
writes null.

`JSONDecoder` parses a text (`parse`, which is Foundation's) and reads the value. Of a decoded model
the app keeps what its screens ask for (`read`), which is `Spec.Museum`'s and `Spec.Loads`'.
-/

namespace ArtExhibition.Models

open Wire

/-- The class `JSONNull`; `==` is always true. -/
inductive JSONNull
  | mk
  deriving DecidableEq, Repr

/-- `init(from:)` does not look at what it gets. -/
def jsonNull : Codable JSONNull where
  shape := .any
  decode _ := .ok .mk
  encode _ := .null
  kept := id
  writesNull := true
  decode_iff _ := iff_of_true ⟨.mk, rfl⟩ (by simp [Shape.Fits])
  decode_encode _ := rfl
  encode_null _ := by simp

/-! ## The records of a page -/

structure Color where
  (color spectrum hue : Option String)
  percent : Option Double
  css3 : Option String

def Color.codable : Codable Color :=
  .struct
    (.cons "color" .string <| .cons "spectrum" .string <| .cons "hue" .string <|
     .cons "percent" .double <| .cons "css3" .string <| .nil)
    (fun (color, spectrum, hue, percent, css3, _) =>
      ⟨color, spectrum, hue, percent, css3⟩)
    (fun m => (m.color, m.spectrum, m.hue, m.percent, m.css3, ()))
    (by decide)

structure Coins where
  reverseinscription : Option String
  dieaxis : Option JSONNull
  (metal obverseinscription denomination : Option String)
  dateonobject : Option JSONNull

def Coins.codable : Codable Coins :=
  .struct
    (.cons "reverseinscription" .string <| .cons "dieaxis" jsonNull <| .cons "metal" .string <|
     .cons "obverseinscription" .string <| .cons "denomination" .string <|
     .cons "dateonobject" jsonNull <| .nil)
    (fun (reverseinscription, dieaxis, metal, obverseinscription, denomination, dateonobject, _) =>
      ⟨reverseinscription, dieaxis, metal, obverseinscription, denomination, dateonobject⟩)
    (fun m => (m.reverseinscription, m.dieaxis, m.metal, m.obverseinscription, m.denomination,
      m.dateonobject, ()))
    (by decide)

structure Details where
  coins : Option Coins

def Details.codable : Codable Details :=
  .struct
    (.cons "coins" Coins.codable <| .nil)
    (fun (coins, _) =>
      ⟨coins⟩)
    (fun m => (m.coins, ()))
    (by decide)

structure Image where
  (date copyright : Option String)
  (imageid idsid : Option Int64)
  format : Option String
  (imageDescription technique : Option JSONNull)
  renditionnumber : Option String
  displayorder : Option Int64
  baseimageurl : Option String
  alttext : Option JSONNull
  width : Option Int64
  publiccaption : Option JSONNull
  iiifbaseuri : Option String
  height : Option Int64

def Image.codable : Codable Image :=
  .struct
    (.cons "date" .string <| .cons "copyright" .string <| .cons "imageid" .int <|
     .cons "idsid" .int <| .cons "format" .string <| .cons "description" jsonNull <|
     .cons "technique" jsonNull <| .cons "renditionnumber" .string <| .cons "displayorder" .int <|
     .cons "baseimageurl" .string <| .cons "alttext" jsonNull <| .cons "width" .int <|
     .cons "publiccaption" jsonNull <| .cons "iiifbaseuri" .string <| .cons "height" .int <| .nil)
    (fun (date, copyright, imageid, idsid, format, imageDescription, technique, renditionnumber,
          displayorder, baseimageurl, alttext, width, publiccaption, iiifbaseuri, height, _) =>
      ⟨date, copyright, imageid, idsid, format, imageDescription, technique, renditionnumber,
       displayorder, baseimageurl, alttext, width, publiccaption, iiifbaseuri, height⟩)
    (fun m => (m.date, m.copyright, m.imageid, m.idsid, m.format, m.imageDescription, m.technique,
      m.renditionnumber, m.displayorder, m.baseimageurl, m.alttext, m.width, m.publiccaption,
      m.iiifbaseuri, m.height, ()))
    (by decide)

structure Person where
  role : Option String
  birthplace : Option JSONNull
  (gender displaydate personPrefix culture displayname alphasort : Option String)
  name : Option String
  personid : Option Int64
  deathplace : Option JSONNull
  displayorder : Option Int64

def Person.codable : Codable Person :=
  .struct
    (.cons "role" .string <| .cons "birthplace" jsonNull <| .cons "gender" .string <|
     .cons "displaydate" .string <| .cons "prefix" .string <| .cons "culture" .string <|
     .cons "displayname" .string <| .cons "alphasort" .string <| .cons "name" .string <|
     .cons "personid" .int <| .cons "deathplace" jsonNull <| .cons "displayorder" .int <| .nil)
    (fun (role, birthplace, gender, displaydate, personPrefix, culture, displayname, alphasort,
          name, personid, deathplace, displayorder, _) =>
      ⟨role, birthplace, gender, displaydate, personPrefix, culture, displayname, alphasort, name,
       personid, deathplace, displayorder⟩)
    (fun m => (m.role, m.birthplace, m.gender, m.displaydate, m.personPrefix, m.culture, m.displayname,
      m.alphasort, m.name, m.personid, m.deathplace, m.displayorder, ()))
    (by decide)

structure SeeAlso where
  (id type format profile : Option String)

def SeeAlso.codable : Codable SeeAlso :=
  .struct
    (.cons "id" .string <| .cons "type" .string <| .cons "format" .string <|
     .cons "profile" .string <| .nil)
    (fun (id, type, format, profile, _) =>
      ⟨id, type, format, profile⟩)
    (fun m => (m.id, m.type, m.format, m.profile, ()))
    (by decide)

structure Worktype where
  (worktypeid worktype : Option String)

def Worktype.codable : Codable Worktype :=
  .struct
    (.cons "worktypeid" .string <| .cons "worktype" .string <| .nil)
    (fun (worktypeid, worktype, _) =>
      ⟨worktypeid, worktype⟩)
    (fun m => (m.worktypeid, m.worktype, ()))
    (by decide)

structure HardvardMuseumObjectRecord where
  copyright : Option JSONNull
  contextualtextcount : Option Int64
  creditline : Option String
  accesslevel : Option Int64
  dateoflastpageview : Option JSONNull
  classificationid : Option Int64
  division : Option String
  (markscount publicationcount totaluniquepageviews : Option Int64)
  contact : Option String
  (colorcount rank : Option Int64)
  details : Option Details
  state : Option JSONNull
  id : Option Int64
  (verificationleveldescription period : Option String)
  images : Option (List Image)
  worktypes : Option (List Worktype)
  (imagecount totalpageviews accessionyear : Option Int64)
  standardreferencenumber : Option String
  signed : Option JSONNull
  classification : Option String
  (relatedcount verificationlevel : Option Int64)
  primaryimageurl : Option String
  (titlescount peoplecount : Option Int64)
  style : Option JSONNull
  lastupdate : Option String
  commentary : Option JSONNull
  periodid : Option Int64
  technique : Option String
  edition : Option JSONNull
  (recordDescription medium : Option String)
  lendingpermissionlevel : Option Int64
  (title accessionmethod : Option String)
  colors : Option (List Color)
  provenance : Option JSONNull
  groupcount : Option Int64
  (dated department : Option String)
  dateend : Option Int64
  people : Option (List Person)
  url : Option String
  dateoffirstpageview : Option JSONNull
  (century objectnumber : Option String)
  labeltext : Option JSONNull
  datebegin : Option Int64
  culture : Option String
  (exhibitioncount imagepermissionlevel mediacount objectid techniqueid : Option Int64)
  dimensions : Option String
  seeAlso : Option (List SeeAlso)

def HardvardMuseumObjectRecord.codable : Codable HardvardMuseumObjectRecord :=
  .struct
    (.cons "copyright" jsonNull <| .cons "contextualtextcount" .int <|
     .cons "creditline" .string <| .cons "accesslevel" .int <|
     .cons "dateoflastpageview" jsonNull <| .cons "classificationid" .int <|
     .cons "division" .string <| .cons "markscount" .int <| .cons "publicationcount" .int <|
     .cons "totaluniquepageviews" .int <| .cons "contact" .string <| .cons "colorcount" .int <|
     .cons "rank" .int <| .cons "details" Details.codable <| .cons "state" jsonNull <|
     .cons "id" .int <| .cons "verificationleveldescription" .string <| .cons "period" .string <|
     .cons "images" (.array Image.codable) <| .cons "worktypes" (.array Worktype.codable) <|
     .cons "imagecount" .int <| .cons "totalpageviews" .int <| .cons "accessionyear" .int <|
     .cons "standardreferencenumber" .string <| .cons "signed" jsonNull <|
     .cons "classification" .string <| .cons "relatedcount" .int <|
     .cons "verificationlevel" .int <| .cons "primaryimageurl" .string <|
     .cons "titlescount" .int <| .cons "peoplecount" .int <| .cons "style" jsonNull <|
     .cons "lastupdate" .string <| .cons "commentary" jsonNull <| .cons "periodid" .int <|
     .cons "technique" .string <| .cons "edition" jsonNull <| .cons "description" .string <|
     .cons "medium" .string <| .cons "lendingpermissionlevel" .int <| .cons "title" .string <|
     .cons "accessionmethod" .string <| .cons "colors" (.array Color.codable) <|
     .cons "provenance" jsonNull <| .cons "groupcount" .int <| .cons "dated" .string <|
     .cons "department" .string <| .cons "dateend" .int <|
     .cons "people" (.array Person.codable) <| .cons "url" .string <|
     .cons "dateoffirstpageview" jsonNull <| .cons "century" .string <|
     .cons "objectnumber" .string <| .cons "labeltext" jsonNull <| .cons "datebegin" .int <|
     .cons "culture" .string <| .cons "exhibitioncount" .int <|
     .cons "imagepermissionlevel" .int <| .cons "mediacount" .int <| .cons "objectid" .int <|
     .cons "techniqueid" .int <| .cons "dimensions" .string <|
     .cons "seeAlso" (.array SeeAlso.codable) <| .nil)
    (fun (copyright, contextualtextcount, creditline, accesslevel, dateoflastpageview,
          classificationid, division, markscount, publicationcount, totaluniquepageviews, contact,
          colorcount, rank, details, state, id, verificationleveldescription, period, images,
          worktypes, imagecount, totalpageviews, accessionyear, standardreferencenumber, signed,
          classification, relatedcount, verificationlevel, primaryimageurl, titlescount,
          peoplecount, style, lastupdate, commentary, periodid, technique, edition,
          recordDescription, medium, lendingpermissionlevel, title, accessionmethod, colors,
          provenance, groupcount, dated, department, dateend, people, url, dateoffirstpageview,
          century, objectnumber, labeltext, datebegin, culture, exhibitioncount,
          imagepermissionlevel, mediacount, objectid, techniqueid, dimensions, seeAlso, _) =>
      ⟨copyright, contextualtextcount, creditline, accesslevel, dateoflastpageview,
       classificationid, division, markscount, publicationcount, totaluniquepageviews, contact,
       colorcount, rank, details, state, id, verificationleveldescription, period, images,
       worktypes, imagecount, totalpageviews, accessionyear, standardreferencenumber, signed,
       classification, relatedcount, verificationlevel, primaryimageurl, titlescount, peoplecount,
       style, lastupdate, commentary, periodid, technique, edition, recordDescription, medium,
       lendingpermissionlevel, title, accessionmethod, colors, provenance, groupcount, dated,
       department, dateend, people, url, dateoffirstpageview, century, objectnumber, labeltext,
       datebegin, culture, exhibitioncount, imagepermissionlevel, mediacount, objectid,
       techniqueid, dimensions, seeAlso⟩)
    (fun m => (m.copyright, m.contextualtextcount, m.creditline, m.accesslevel, m.dateoflastpageview,
      m.classificationid, m.division, m.markscount, m.publicationcount, m.totaluniquepageviews,
      m.contact, m.colorcount, m.rank, m.details, m.state, m.id, m.verificationleveldescription,
      m.period, m.images, m.worktypes, m.imagecount, m.totalpageviews, m.accessionyear,
      m.standardreferencenumber, m.signed, m.classification, m.relatedcount, m.verificationlevel,
      m.primaryimageurl, m.titlescount, m.peoplecount, m.style, m.lastupdate, m.commentary,
      m.periodid, m.technique, m.edition, m.recordDescription, m.medium, m.lendingpermissionlevel,
      m.title, m.accessionmethod, m.colors, m.provenance, m.groupcount, m.dated, m.department,
      m.dateend, m.people, m.url, m.dateoffirstpageview, m.century, m.objectnumber, m.labeltext,
      m.datebegin, m.culture, m.exhibitioncount, m.imagepermissionlevel, m.mediacount, m.objectid,
      m.techniqueid, m.dimensions, m.seeAlso, ()))
    (by decide)

structure HardvardMuseumObjectInfo where
  (totalrecordsperquery totalrecords pages page : Option Int64)
  next : Option String

def HardvardMuseumObjectInfo.codable : Codable HardvardMuseumObjectInfo :=
  .struct
    (.cons "totalrecordsperquery" .int <| .cons "totalrecords" .int <| .cons "pages" .int <|
     .cons "page" .int <| .cons "next" .string <| .nil)
    (fun (totalrecordsperquery, totalrecords, pages, page, next, _) =>
      ⟨totalrecordsperquery, totalrecords, pages, page, next⟩)
    (fun m => (m.totalrecordsperquery, m.totalrecords, m.pages, m.page, m.next, ()))
    (by decide)

structure HardvardMuseumObject where
  info : Option HardvardMuseumObjectInfo
  records : Option (List HardvardMuseumObjectRecord)

def HardvardMuseumObject.codable : Codable HardvardMuseumObject :=
  .struct
    (.cons "info" HardvardMuseumObjectInfo.codable <|
     .cons "records" (.array HardvardMuseumObjectRecord.codable) <| .nil)
    (fun (info, records, _) =>
      ⟨info, records⟩)
    (fun m => (m.info, m.records, ()))
    (by decide)

/-! ## A person -/

structure Name where
  (displayname type : Option String)

def Name.codable : Codable Name :=
  .struct
    (.cons "displayname" .string <| .cons "type" .string <| .nil)
    (fun (displayname, type, _) =>
      ⟨displayname, type⟩)
    (fun m => (m.displayname, m.type, ()))
    (by decide)

structure HardvardMuseumPerson where
  personid : Option Int64
  displayname : Option String
  (datebegin dateend : Option Int64)
  (displaydate culture gender : Option String)
  (birthplace deathplace : Option JSONNull)
  (alphasort url : Option String)
  (objectcount id : Option Int64)
  (lastupdate ulanID viafID wikidataID : Option String)
  names : Option (List Name)

def HardvardMuseumPerson.codable : Codable HardvardMuseumPerson :=
  .struct
    (.cons "personid" .int <| .cons "displayname" .string <| .cons "datebegin" .int <|
     .cons "dateend" .int <| .cons "displaydate" .string <| .cons "culture" .string <|
     .cons "gender" .string <| .cons "birthplace" jsonNull <| .cons "deathplace" jsonNull <|
     .cons "alphasort" .string <| .cons "url" .string <| .cons "objectcount" .int <|
     .cons "id" .int <| .cons "lastupdate" .string <| .cons "ulan_id" .string <|
     .cons "viaf_id" .string <| .cons "wikidata_id" .string <|
     .cons "names" (.array Name.codable) <| .nil)
    (fun (personid, displayname, datebegin, dateend, displaydate, culture, gender, birthplace,
          deathplace, alphasort, url, objectcount, id, lastupdate, ulanID, viafID, wikidataID,
          names, _) =>
      ⟨personid, displayname, datebegin, dateend, displaydate, culture, gender, birthplace,
       deathplace, alphasort, url, objectcount, id, lastupdate, ulanID, viafID, wikidataID, names⟩)
    (fun m => (m.personid, m.displayname, m.datebegin, m.dateend, m.displaydate, m.culture, m.gender,
      m.birthplace, m.deathplace, m.alphasort, m.url, m.objectcount, m.id, m.lastupdate, m.ulanID,
      m.viafID, m.wikidataID, m.names, ()))
    (by decide)

/-! ## Detailed news -/

structure DetailedNewsColors where
  color : Option String
  percent : Option Double

def DetailedNewsColors.codable : Codable DetailedNewsColors :=
  .struct
    (.cons "color" .string <| .cons "percent" .double <| .nil)
    (fun (color, percent, _) =>
      ⟨color, percent⟩)
    (fun m => (m.color, m.percent, ()))
    (by decide)

structure DetailedNewsText where
  (context text : Option String)

def DetailedNewsText.codable : Codable DetailedNewsText :=
  .struct
    (.cons "context" .string <| .cons "text" .string <| .nil)
    (fun (context, text, _) =>
      ⟨context, text⟩)
    (fun m => (m.context, m.text, ()))
    (by decide)

structure DetailedNewsImages where
  date : Option String
  idsid : Option Int64
  (description iiifbaseuri : Option String)

def DetailedNewsImages.codable : Codable DetailedNewsImages :=
  .struct
    (.cons "date" .string <| .cons "idsid" .int <| .cons "description" .string <|
     .cons "iiifbaseuri" .string <| .nil)
    (fun (date, idsid, description, iiifbaseuri, _) =>
      ⟨date, idsid, description, iiifbaseuri⟩)
    (fun m => (m.date, m.idsid, m.description, m.iiifbaseuri, ()))
    (by decide)

structure DetailedNewsModel where
  objectid : Option Int64
  provenance : Option String
  colors : Option (List DetailedNewsColors)
  contextualtext : Option DetailedNewsText
  images : Option (List DetailedNewsImages)

def DetailedNewsModel.codable : Codable DetailedNewsModel :=
  .struct
    (.cons "objectid" .int <| .cons "provenance" .string <|
     .cons "colors" (.array DetailedNewsColors.codable) <|
     .cons "contextualtext" DetailedNewsText.codable <|
     .cons "images" (.array DetailedNewsImages.codable) <| .nil)
    (fun (objectid, provenance, colors, contextualtext, images, _) =>
      ⟨objectid, provenance, colors, contextualtext, images⟩)
    (fun m => (m.objectid, m.provenance, m.colors, m.contextualtext, m.images, ()))
    (by decide)

/-! ## What the app reads -/

def Image.read (image : Image) : ArtExhibition.Image :=
  ⟨image.date, image.iiifbaseuri, image.width.map (·.toInt), image.height.map (·.toInt)⟩

def Person.read (person : Person) : ArtExhibition.Person := ⟨person.personid.map (·.toInt)⟩

def HardvardMuseumObjectRecord.read (record : HardvardMuseumObjectRecord) :
    ArtExhibition.HardvardMuseumObjectRecord :=
  ⟨record.title, record.people.map (List.map Person.read), record.images.map (List.map Image.read)⟩

def HardvardMuseumObjectInfo.read (info : HardvardMuseumObjectInfo) :
    ArtExhibition.HardvardMuseumObjectInfo :=
  ⟨info.totalrecords.map (·.toInt)⟩

def HardvardMuseumObject.read (page : HardvardMuseumObject) : ArtExhibition.HardvardMuseumObject :=
  ⟨page.info.map HardvardMuseumObjectInfo.read,
    page.records.map (List.map HardvardMuseumObjectRecord.read)⟩

def HardvardMuseumPerson.read (person : HardvardMuseumPerson) : ArtExhibition.HardvardMuseumPerson :=
  ⟨person.gender, person.names.map (List.map fun name => ⟨name.displayname⟩)⟩

def DetailedNewsModel.read (model : DetailedNewsModel) : ArtExhibition.DetailedNewsModel :=
  ⟨model.objectid.map (·.toInt), model.provenance,
    model.colors.map (List.map fun color => ⟨color.color, color.percent.map (·.value)⟩),
    model.contextualtext.map fun text => ⟨text.context, text.text⟩,
    model.images.map (List.map fun image =>
      ⟨image.date, image.idsid.map (·.toInt), image.description, image.iiifbaseuri⟩)⟩

/-! ## Decoding -/

/-- The code that a `DecodingError` has as an `NSError`. -/
def nsError : DecodingError → NSError
  | .valueNotFound => ⟨4865⟩
  | .typeMismatch | .dataCorrupted => ⟨4864⟩

/-- `JSONDecoder().decode(_:from:)`; a text that does not parse is corrupted data. -/
def decode {α : Type} (parse : Bytes → Option JSON) (c : Codable α) (data : Bytes) : Except NSError α :=
  match parse data with
  | none => .error (nsError .dataCorrupted)
  | some j => (c.decode j).mapError nsError

/-- The API, with the decoders of its models. -/
def api (parse : Bytes → Option JSON)
    (response : Networking.BaseEnpoint → Except NSError Networking.RouterResponse) : MuseumAPI where
  response := response
  decodeObject data := (decode parse HardvardMuseumObject.codable data).map HardvardMuseumObject.read
  decodePerson data := (decode parse HardvardMuseumPerson.codable data).map HardvardMuseumPerson.read
  decodeDetailedNews data := (decode parse DetailedNewsModel.codable data).map DetailedNewsModel.read

end ArtExhibition.Models
