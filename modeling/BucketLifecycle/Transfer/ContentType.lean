import BucketLifecycle.Path

/-!
# Content types

The content type of a file whose type nobody gave, from the extension of its name in any case of
letters.  Only the extensions in common use are known here.
-/

set_option autoImplicit false

namespace BucketLifecycle

/-- The known extensions with their content types. -/
def contentTypes : List (String × String) :=
  [("txt", "text/plain"), ("log", "text/plain"), ("json", "application/json"),
    ("html", "text/html"), ("htm", "text/html"), ("css", "text/css"), ("js", "text/javascript"),
    ("xml", "text/xml"), ("csv", "text/csv"), ("md", "text/markdown"), ("png", "image/png"),
    ("jpg", "image/jpeg"), ("jpeg", "image/jpeg"), ("gif", "image/gif"), ("svg", "image/svg+xml"),
    ("pdf", "application/pdf"), ("zip", "application/zip"), ("gz", "application/gzip"),
    ("tar", "application/x-tar"), ("tgz", "application/x-compressed"),
    ("wasm", "application/wasm"), ("toml", "text/x-toml"), ("yaml", "text/x-yaml"),
    ("yml", "text/x-yaml"), ("rs", "text/x-rust"), ("xhtml", "application/xhtml+xml"),
    ("bmp", "image/bmp"), ("ico", "image/x-icon"), ("tif", "image/tiff"), ("tiff", "image/tiff"),
    ("webp", "image/webp"), ("aac", "audio/aac"), ("flac", "audio/flac"), ("mp3", "audio/mpeg"),
    ("ogg", "audio/ogg"), ("wav", "audio/wav"), ("weba", "audio/webm"),
    ("avi", "video/x-msvideo"), ("mov", "video/quicktime"), ("mp4", "video/mp4"),
    ("mpeg", "video/mpeg"), ("mpg", "video/mpeg"), ("ogv", "video/ogg"), ("webm", "video/webm"),
    ("7z", "application/x-7z-compressed"), ("bz2", "application/x-bzip2"),
    ("xz", "application/x-xz"), ("jar", "application/java-archive"),
    ("sh", "application/x-sh"), ("ps", "application/postscript"),
    ("epub", "application/epub+zip"), ("doc", "application/msword"),
    ("xls", "application/vnd.ms-excel"), ("ppt", "application/vnd.ms-powerpoint"),
    ("docx", "application/vnd.openxmlformats-officedocument.wordprocessingml.document"),
    ("xlsx", "application/vnd.openxmlformats-officedocument.spreadsheetml.sheet"),
    ("pptx", "application/vnd.openxmlformats-officedocument.presentationml.presentation"),
    ("odt", "application/vnd.oasis.opendocument.text"),
    ("ods", "application/vnd.oasis.opendocument.spreadsheet"),
    ("odp", "application/vnd.oasis.opendocument.presentation")]

/-- The content type of bytes of which nothing is known. -/
def unknownContentType : String := "application/octet-stream"

/-- The content type of a file by its path. -/
def contentTypeOf (p : Path) : String :=
  let extension := (p.extension?.bind Text.utf8Text?).map String.toLower
  ((extension.bind fun e => contentTypes.lookup e)).getD unknownContentType

end BucketLifecycle
