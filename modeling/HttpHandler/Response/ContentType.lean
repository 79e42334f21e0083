import HttpHandler.Text.Basic

/-!
# Content types

The common kinds of bodies and the values of their header field.
-/

namespace HttpHandler

inductive ContentType where
  | csv
  | eventStream
  | formData
  | html
  | json
  | ndJson
  | octetStream
  | pdf
  | text
  | xml
deriving Repr, DecidableEq

namespace ContentType

def value : ContentType → String
  | .csv => "text/csv"
  | .eventStream => "text/event-stream"
  | .formData => "application/x-www-form-urlencoded"
  | .html => "text/html; charset=utf-8"
  | .json => "application/json"
  | .ndJson => "application/x-ndjson"
  | .octetStream => "application/octet-stream"
  | .pdf => "application/pdf"
  | .text => "text/plain; charset=utf-8"
  | .xml => "application/xml"

def name : ContentType → String
  | .csv => "Csv"
  | .eventStream => "EventStream"
  | .formData => "FormData"
  | .html => "Html"
  | .json => "Json"
  | .ndJson => "NdJson"
  | .octetStream => "OctetStream"
  | .pdf => "Pdf"
  | .text => "Text"
  | .xml => "Xml"

def bytes (contentType : ContentType) : Bytes := Utf8.encode contentType.value

end ContentType

end HttpHandler
