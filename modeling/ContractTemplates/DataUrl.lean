import ContractTemplates.Base64

namespace ContractTemplates

/-!
# Data addresses

A document is sent to the browser as an address that holds the whole document:
a media type and the bytes in Base64.
-/

namespace DataUrl

/-- The media type of documents. -/
def documentType : Text :=
  "application/pdf".toList

/-- The address that holds bytes of a media type. -/
def ofBytes (mediaType : Text) (bytes : Bytes) : Text :=
  "data:".toList ++ mediaType ++ ";base64,".toList ++ Base64.encode bytes

/-- The address that holds a document. -/
def ofDocument (bytes : Bytes) : Text :=
  ofBytes documentType bytes

end DataUrl

end ContractTemplates
