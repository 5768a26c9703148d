import Switchboard.Service.Registry

/-!
# The sample application

Users to list, show and create, a procedure that adds numbers or texts, a socket that echoes and one
that tells the time. The world of the application is whatever its clock is read from.
-/

namespace Switchboard.Sample
variable {σ : Type}

/-- The class of the handlers of users. -/
def usersClass : String := "Users"

/-- The class of the procedure that adds. -/
def calcClass : String := "Calc"

/-- A body that only computes a document from its arguments. -/
def answering (f : List Value → Json) : Body σ := fun args _ => return { model := .json (f args) }

/-- The integer at an index of the arguments; zero if there is none. -/
def intAt (args : List Value) (i : Nat) : Int := (Arguments.get args i).int?.getD 0

/-- The text at an index of the arguments; empty if there is none. -/
def textAt (args : List Value) (i : Nat) : String := (Arguments.get args i).text?.getD ""

/-- Lists users, ten of them if nothing is said. -/
def listUsers : Declaration σ where
  type := usersClass
  method := "list"
  params := [{ name := "limit", type := .scalar (.whole .int), default := some "10" },
    { name := "q", type := .text }]
  body := answering fun args =>
    .ofFields [("limit", .ofInt (intAt args 0)),
      ("q", (((Arguments.get args 1).text?.map Json.text).getD .null))]

/-- Shows a user. -/
def showUser : Declaration σ where
  type := usersClass
  method := "show"
  params := [{ name := "id", type := .scalar (.whole .int) }]
  body := answering fun args => .ofFields [("id", .ofInt (intAt args 0))]

/-- Shows the profile of the only user who has one. -/
def showProfile : Declaration σ where
  type := usersClass
  method := "profile"
  params := [{ name := "id", type := .scalar (.whole .int) }]
  markers := [{ name := "Lookup" }]
  body := fun args _ =>
    if (Arguments.get args 0).int? = some 1 then
      return { model := .json (.ofFields [("id", .ofInt 1), ("name", .text "admin")]) }
    else throw (.notFound "no such user")

/-- Creates a user, who needs a name. -/
def createUser : Declaration σ where
  type := usersClass
  method := "create"
  params := [{ name := "name", type := .text, markers := [{ name := "Required" }] }]
  body := answering fun args => .ofFields [("created", .text (textAt args 0))]

/-- Says that what is looked up is missing. -/
def missing : Aspect σ where
  owner := usersClass
  method := "missing"
  kind := .rescue
  rescues := [.notFound]
  onlyWith := ["Lookup"]
  view := some "html"
  body := fun _ _ => return { model := .text "missing" }

/-- Adds numbers. -/
def addNumbers : Declaration σ where
  type := calcClass
  method := "add"
  params := [{ name := "a", type := .scalar (.whole .int) },
    { name := "b", type := .scalar (.whole .int) }]
  body := answering fun args => .ofInt (intAt args 0 + intAt args 1)

/-- Adds texts. -/
def addTexts : Declaration σ where
  type := calcClass
  method := "add"
  params := [{ name := "a", type := .text }, { name := "b", type := .text }]
  body := answering fun args => .text (textAt args 0 ++ textAt args 1)

/-- Echoes a message. -/
def echo : Declaration σ where
  type := "Echo"
  method := "echo"
  body := fun _ _ => do
    let x ← get
    return { model := .json (.ofFields [("echo", .text x.request.bodyText)]) }

/-- Tells the time of the world. -/
def tellTime (clock : σ → String) : Declaration σ where
  type := "Clock"
  method := "tick"
  body := fun _ _ => do
    let x ← get
    return { model := .text (clock x.world) }

/-- The namespace of the procedure that adds, with a candidate for numbers and one for texts. -/
def calcNamespace : Namespace σ where
  name := "calc"
  methods := [{ declaration := addNumbers, exposed := true },
    { declaration := addTexts, exposed := true }]

/-- Registers the sample application. -/
def register (clock : σ → String) (r : Registry σ) : Registry σ :=
  r.route .get "/users" listUsers
    |>.route .get "/users/\x7bid\x7d" showUser
    |>.route .get "/users/\x7bid\x7d/profile" showProfile
    |>.route .post "/users" createUser
    |>.aspect missing
    |>.addNamespace calcNamespace
    |>.route .ws "/echo" echo
    |>.push
      { path := "/clock", delay := 1000, event := .periodic, declaration := tellTime clock }

end Switchboard.Sample
