import AccountRegistry.Remote.Reply
import AccountRegistry.Text.Unicode

/-!
The user directory as the identity provider's client reaches it (`Directory.server`).

The client sends a request and reads the directory's reply. A dropped connection fails the
dispatch. A reply of status 2xx is read against the shape of the operation's output. Any
other reply is an error: its code, with the namespace and trailing part cut off, names a
service error, after its body is read against the error's shape when the operation declares
that error. A body the client cannot read fails the reply with a text that shows the raw
response.
-/

set_option autoImplicit false

namespace AccountRegistry.Remote

/-- The request id every directory reply carries. -/
def replyId : String := "00000000-0000-0000-0000-000000000000"

/-- The text of a request whose connection was closed before the reply. -/
def droppedText : String :=
  "dispatch failure: other: client error (SendRequest): connection closed before message completed " ++
  "(DispatchFailure(DispatchFailure \x7b source: ConnectorError \x7b kind: Other(Some(TransientError)), " ++
  "source: hyper_util::client::legacy::Error(SendRequest, hyper::Error(IncompleteMessage)), connection: Unknown \x7d \x7d))"

/-- The diagnostic form of a byte string. -/
def bytesDebug (s : String) : String :=
  s.toUTF8.toList.foldl (fun acc b =>
    acc ++ (if b == 34 then "\\\"" else if b == 92 then "\\\\" else if b == 10 then "\\n"
      else if b == 13 then "\\r" else if b == 9 then "\\t" else if b == 0 then "\\0"
      else if 32 ≤ b && b < 127 then String.singleton (Char.ofNat b.toNat)
      else "\\x" ++ String.singleton (Json.hexDigit (b.toNat / 16)) ++
        String.singleton (Json.hexDigit (b.toNat % 16)))) ""

/-- The text of a reply the client could not use: what went wrong (`shown`, with its
diagnostic form `source`) and the reply itself. -/
def responseErrorText (status : Nat) (body shown source : String) : String :=
  "response error: " ++ shown ++ " (ResponseError(ResponseError \x7b source: " ++ source ++ ", " ++
  "raw: Response \x7b status: StatusCode(" ++ toString status ++ "), headers: \x7b\"content-type\": " ++
  "\"application/x-amz-json-1.1\", \"x-amzn-requestid\": " ++ Text.debugQuote replyId ++ ", \"content-length\": \"" ++
  toString body.utf8ByteSize ++ "\"\x7d, body: SdkBody \x7b inner: Once(Some(b\"" ++ bytesDebug body ++
  "\")), retryable: true \x7d, extensions: Extensions \x7b extensions_02x: Extensions, extensions_1x: " ++
  "\x7baws_smithy_http_client::client::connect::ConnectPathInner, hyper_util::client::legacy::connect::http::HttpInfo\x7d \x7d \x7d \x7d))"

/-- The text of an error reply that names no error code. -/
def unhandledText (status : Nat) (body : String) (message : Option String) : String :=
  let idField := "aws_request_id: " ++ Text.debugQuote replyId
  let shown := "Error \x7b " ++ (match message with
    | some m => "message: " ++ Text.debugQuote m ++ ", "
    | none => "") ++ idField ++ " \x7d"
  let messageDebug := match message with
    | some m => "Some(" ++ Text.debugQuote m ++ ")"
    | none => "None"
  responseErrorText status body ("unhandled error: " ++ shown)
    ("Unhandled(Unhandled \x7b source: ErrorMetadata \x7b code: None, message: " ++ messageDebug ++
      ", extras: Some(\x7b\"aws_request_id\": " ++ Text.debugQuote replyId ++ "\x7d) \x7d, " ++
      "meta: ErrorMetadata \x7b code: None, message: None, extras: None \x7d \x7d)")

/-- The text of a reply body the client could not read. -/
def unreadableText (status : Nat) (body : String) (f : ReplyFailure) : String :=
  responseErrorText status body f.text f.debugText

/-- An error code without its trailing part from the first `:` on, and without its namespace,
up to and including the first `#`. -/
def sanitizeCode (code : String) : String :=
  let cut := code.toList.takeWhile (· != ':')
  if cut.contains '#' then String.ofList ((cut.dropWhile (· != '#')).drop 1) else String.ofList cut

/-- What the client makes of the directory's reply to a request. -/
def readResponse (r : DirectoryRequest) : Reply → Except SdkFailure Json
  | .dropped => .error (.dispatchFailure droppedText)
  | .response status body =>
    if 200 ≤ status && status < 300 then
      match r.replyShape with
      | none => .ok (.obj [])
      | some members =>
        match readReply members body with
        | .ok j => .ok j
        | .error f => .error (.responseError (unreadableText status body f))
    else
      match errorMetadata body with
      | .error f => .error (.responseError (unreadableText status body f))
      | .ok (some code, message) =>
        let code := sanitizeCode code
        match r.errorShape code with
        | none => .error (.serviceError code message)
        | some members =>
          match readReply members body with
          | .ok _ => .error (.serviceError code message)
          | .error f => .error (.responseError (unreadableText status body f))
      | .ok (none, message) => .error (.responseError (unhandledText status body message))

/-- The directory as a server: its delay and the client's reading of its reply. -/
def Directory.server : DirectoryServer Directory where
  call d r :=
    let (delay, reply, d) := d.handle r
    (delay, readResponse r reply, d)

end AccountRegistry.Remote
