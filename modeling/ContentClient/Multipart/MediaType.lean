import ContentClient.Text.Case

/-!
# Media types by file name

The media type of a file is guessed from the extension of the last component of its path. A trailing
slash and components `.` are passed over, `..` has no extension, and neither has a name whose only
dot is its first character. The case of an extension does not matter.

The registry of media types by extension knows many more extensions than the `table` here, which has
the common ones. A file with an extension that is missing here counts as one about which nothing is
known, whatever the registry says of it. Only `guess` reads the table, and what is proved about
bodies holds of any media type in its place.
-/

namespace ContentClient.MediaType

/-- The type of files about which nothing is known. -/
def octetStream : String := "application/octet-stream"

/-- The media types of the common extensions. -/
def table : List (String × String) :=
  [("txt", "text/plain"), ("py", "text/plain"), ("pdf", "application/pdf"), ("png", "image/png"),
    ("jpg", "image/jpeg"), ("jpeg", "image/jpeg"), ("gif", "image/gif"), ("html", "text/html"),
    ("htm", "text/html"), ("css", "text/css"), ("js", "text/javascript"),
    ("json", "application/json"), ("xml", "text/xml"), ("csv", "text/csv"),
    ("zip", "application/zip"), ("gz", "application/gzip"), ("tar", "application/x-tar"),
    ("mp3", "audio/mpeg"), ("mp4", "video/mp4"), ("doc", "application/msword"),
    ("docx", "application/vnd.openxmlformats-officedocument.wordprocessingml.document"),
    ("xls", "application/vnd.ms-excel"),
    ("xlsx", "application/vnd.openxmlformats-officedocument.spreadsheetml.sheet"),
    ("ppt", "application/vnd.ms-powerpoint"),
    ("pptx", "application/vnd.openxmlformats-officedocument.presentationml.presentation"),
    ("svg", "image/svg+xml"), ("ico", "image/x-icon"), ("bmp", "image/bmp"), ("webp", "image/webp"),
    ("md", "text/markdown"), ("bin", octetStream), ("exe", octetStream), ("wav", "audio/wav"),
    ("avi", "video/x-msvideo"), ("mov", "video/quicktime"), ("rtf", "application/rtf"),
    ("ts", "video/vnd.dlna.mpeg-tts"), ("rs", "text/x-rust"), ("7z", "application/x-7z-compressed"),
    ("tiff", "image/tiff")]

/-- The components of a path. -/
def components : List Char → List (List Char)
  | [] => [[]]
  | c :: rest =>
    match components rest with
    | [] => [[c]]
    | part :: parts => if c = '/' then [] :: part :: parts else (c :: part) :: parts

/-- The last component of a path that is a name. -/
def fileName? (path : String) : Option String :=
  match ((components path.toList).filter fun p => p ≠ [] ∧ p ≠ ['.']).getLast? with
  | none => none
  | some name => if name = ['.', '.'] then none else some (String.ofList name)

/-- What follows the last dot of a file name, unless that dot is its first character or missing. -/
def extension? (name : String) : Option String :=
  let reversed := name.toList.reverse
  let ending := reversed.takeWhile (· ≠ '.')
  let stem := reversed.drop (ending.length + 1)
  if stem.isEmpty then none else some (String.ofList ending.reverse)

/-- The media type of a file, by its path. -/
def guess (path : String) : String :=
  match (fileName? path).bind extension? with
  | none => octetStream
  | some ext =>
    let key := Text.fold ext.toList
    ((table.find? fun entry => entry.1.toList == key).map (·.2)).getD octetStream

end ContentClient.MediaType
