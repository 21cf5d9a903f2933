import DataGrid.Http.MediaType
import DataGrid.Http.Target
import DataGrid.Node.Basic

/-!
# Endpoints

Where the operations of a node are found, and what a client is told whose request does not get
through to one: the endpoint must exist, take the method, be sent JSON, and be sent it in the
right shape, and this is looked at in that order. A query that comes to nothing is not answered at
all: the connection ends.
-/

namespace DataGrid

structure HttpRequest where
  method : String
  target : String
  contentType : Option String := none
  body : String := ""

structure HttpResponse where
  status : Nat
  /-- Whether the response is JSON, also if the body itself is left out. -/
  isJson : Bool := false
  body : Option Json := none

inductive Endpoint where
  | put
  /-- The collection and the key as they stand in the path. -/
  | get (collection key : String)
  | scan
  | aggregate
  | submit
  | cancel
  | status (id : String)

namespace Endpoint

/-- The endpoint of a path. The last segment is not empty. -/
def ofSegments? : List String → Option Endpoint
  | ["map", "put"] => some .put
  | ["map", "get", collection, key] =>
    if key.isEmpty then none else some (.get collection key)
  | ["query", "scan"] => some .scan
  | ["query", "aggregate"] => some .aggregate
  | ["task", "submit"] => some .submit
  | ["task", "cancel"] => some .cancel
  | ["task", "status", id] => if id.isEmpty then none else some (.status id)
  | _ => none

/-- Whether the endpoint is only read from. -/
def isRead : Endpoint → Bool
  | .get .. | .status _ => true
  | _ => false

/-- Whether the endpoint takes a method; one that is read from also answers without a body. -/
def allows (e : Endpoint) (method : String) : Bool :=
  if e.isRead then method == "GET" || method == "HEAD" else method == "POST"

end Endpoint

namespace HttpResponse

def json (status : Nat) (body : Json) : HttpResponse := ⟨status, true, some body⟩

def withoutBody (r : HttpResponse) : HttpResponse := { r with body := none }

/-- The answer of an operation, or its error with the status that belongs to it. -/
def ofResult (toJson : α → Json) : Except GridError α → HttpResponse
  | .ok a => json 200 (toJson a)
  | .error e => json e.status (.object [("error", .text e.message)])

/-- As `ofResult`, for an operation that may come to nothing. -/
def ofResult? (toJson : α → Json) : Except GridError (Option α) → Option HttpResponse
  | .ok none => none
  | .ok (some a) => some (ofResult toJson (.ok a))
  | .error e => some (ofResult toJson (.error e))

/-- What a client is told whose body could not be read. -/
def ofDecodeError : DecodeError → HttpResponse
  | .malformed => { status := 400 }
  | .mismatch => { status := 422 }

end HttpResponse

namespace Node

/-- Answers a request with a body; only what it begins with is looked at. -/
def withBody (n : Node) (r : HttpRequest) (read : Decoder α)
    (serve : α → Option HttpResponse × Node) : Option HttpResponse × Node :=
  if (r.contentType.bind MediaType.parse?).any (·.isJson) then
    match read (Document.parsePrefix r.body).1 with
    | .ok a => serve a
    | .error e => (some (.ofDecodeError e), n)
  else (some { status := 415 }, n)

/-- Answers about something that the path names. -/
def getResponse (n : Node) (collection key : String) : HttpResponse :=
  match Target.decode? collection, Target.decode? key with
  | some c, some k =>
    let a := n.get c k
    .json (if a.value.isSome then 200 else 404) a.toJson
  | _, _ => { status := 400 }

def statusResponse (n : Node) (id : String) : HttpResponse :=
  match Target.decode? id with
  | some id =>
    match n.status? id with
    | some t => .json 200 t.toJson
    | none => .json 404 .null
  | none => { status := 400 }

/-- Serves an endpoint. -/
def serveEndpoint (n : Node) (r : HttpRequest) : Endpoint → Option HttpResponse × Node
  | .put => n.withBody r PutRequest.ofDocument fun b =>
    let (a, n) := n.put b
    (some (.ofResult PutAnswer.toJson a), n)
  | .get collection key => (some (n.getResponse collection key), n)
  | .scan => n.withBody r ScanRequest.ofDocument fun b =>
    let (a, n) := n.scan b
    (HttpResponse.ofResult? ScanAnswer.toJson a, n)
  | .aggregate => n.withBody r AggregateRequest.ofDocument fun b =>
    let (a, n) := n.aggregate b
    (HttpResponse.ofResult? AggregateAnswer.toJson a, n)
  | .submit => n.withBody r SubmitRequest.ofDocument fun b =>
    let (a, n) := n.submit b
    (some (.ofResult SubmitAnswer.toJson a), n)
  | .cancel => n.withBody r CancelRequest.ofDocument fun b =>
    let (a, n) := n.cancel b
    (some (.json 200 a.toJson), n)
  | .status id => (some (n.statusResponse id), n)

/-- Answers a request, if there is an answer. -/
def serve (n : Node) (r : HttpRequest) : Option HttpResponse × Node :=
  match (Target.segments? r.target).bind Endpoint.ofSegments? with
  | none => (some { status := 404 }, n)
  | some e =>
    if !e.allows r.method then (some { status := 405 }, n)
    else
      let (response, n) := n.serveEndpoint r e
      (if r.method == "HEAD" then response.map (·.withoutBody) else response, n)

end Node

end DataGrid
