import ContentClient.Client.Send

/-!
# Uploads

An endpoint for uploads says where files go, how their part is named, and which text fields come
before it.
-/

namespace ContentClient

/-- An endpoint that takes multipart uploads. -/
structure UploadTarget where
  /-- The path below the base URL of uploads. -/
  path : String
  partName : String := "file"
  /-- The media type of a file, by its name; without one it is guessed. -/
  contentType : String → Option String := fun _ => none
  /-- The text fields, of which a later one replaces an earlier one of the same name. -/
  fields : List (String × String) := []

namespace UploadTarget

/-- The body for a file. -/
def encoder (t : UploadTarget) (filename : String) (source : FileSource) : MultipartEncoder :=
  { fields := Multipart.Fields.putAll [] t.fields
    file :=
      { partName := t.partName
        filename := filename
        contentType := t.contentType filename
        source := source } }

end UploadTarget

/-- Posts a body to an endpoint for uploads. -/
def Client.upload {σ : Type} (link : Link σ) (c : Client) (target : UploadTarget)
    (encoder : MultipartEncoder) (s : Session σ) : Except ApiError Response × Session σ :=
  match c.uploadUrl target.path with
  | .error e => (.error e, s)
  | .ok url =>
    let request : Request := { method := "POST", url := url }
    let (result, _, s) := c.send link (request.setMultipart encoder) s
    (result, s)

end ContentClient
