import RestDispatch.Description.Instruction

set_option autoImplicit false

/-!
Sessions: an application under construction, together with the names by which instructions refer to its
classes, instances and parsers, and with the servers that have been started.
-/
namespace RestDispatch

structure Session where
  app : App := {}
  workshop : Workshop := {}
  parserNames : List (String × ParserId) := []
  served : List Entries := []

inductive Report where
  | done
  | route (route : Route Resource)
  | routes (routes : List (Route Resource))
  | listing (entries : List (Route Resource × List Verb))
  | verbs (verbs : List Verb)
  | tags (tags : List String)
  | messages (messages : List Message)
  | life (life : Lifespan)
  | launched (launch : Launch)

inductive InstructionError where
  | fault (fault : Fault)
  | unanswered
  | declare (e : DeclareError)
  | register (e : RegisterError)

def InstructionError.asFault : InstructionError → Fault
  | .fault raised => raised
  | .unanswered => .of "Unsupported" "a call that does not end"
  | .declare e => .valueError e.message
  | .register (.route (.stopped raised)) => raised
  | .register e => .of "ConfigurationError" e.message

abbrev Reported := Except InstructionError Report

def InstructionError.ofSilence : Silence → InstructionError
  | .raised what => .fault what
  | .endless => .unanswered

namespace Session

def ofValue (v : Value) : Session :=
  { app := .new (v.flagField "strict") (v.flagField "debug"), workshop := { classes := classesOf v } }

def objects (session : Session) : Objects := session.app.registry.router.objects

def withObjects (session : Session) (objects : Objects) (workshop : Workshop) : Session :=
  let registry := session.app.registry
  { session with app := session.app.withRegistry { registry with router := { registry.router with objects } }, workshop }

def withApp (session : Session) (app : App) : Session := { session with app }

-- Declares parameters up to the first that fails; those before it stay.
def declareAll (parser : Parser) : List (String × Settings) → Except DeclareError Unit × Parser
  | [] => (.ok (), parser)
  | (name, settings) :: rest =>
    match parser.declare name settings with
    | .error e => (.error e, parser)
    | .ok (parser, _) => declareAll parser rest

def storeParser (session : Session) (name : String) (parser : Parser) : Session :=
  let (id, registry) := session.app.registry.addParser parser
  { session with app := session.app.withRegistry registry, parserNames := put name id session.parserNames }

-- Makes a parser and declares its parameters. It is stored even if one of them cannot be declared.
def makeParser (session : Session) (name : String) (defaults : Settings)
    (parameters : List (String × Settings)) : Reported × Session :=
  match Parser.new defaults with
  | .error e => (.error (.declare e), session)
  | .ok parser =>
    match declareAll parser parameters with
    | (.error e, parser) => (.error (.declare e), session.storeParser name parser)
    | (.ok (), parser) => (.ok .done, session.storeParser name parser)

-- The place of the parser of a name. A name that is not known becomes that of a parser without parameters.
def parserNamed (session : Session) (name : String) : ParserId × Session :=
  match session.parserNames.lookup name with
  | some id => (id, session)
  | none =>
    let (id, registry) := session.app.registry.addParser {}
    (id, { session with app := session.app.withRegistry registry, parserNames := put name id session.parserNames })

def addParameter (session : Session) (parserName name : String) (settings : Settings) : Reported × Session :=
  let (id, session) := session.parserNamed parserName
  let registry := session.app.registry
  match (registry.parsers.getD id {}).declare name settings with
  | .error e => (.error (.declare e), session)
  | .ok (parser, _) =>
    (.ok .done, session.withApp (session.app.withRegistry (registry.amendParser id fun _ => parser)))

def attachments (session : Session) : List (String × String) → List (String × ParserId) × Session
  | [] => ([], session)
  | (verb, name) :: rest =>
    let (id, session) := session.parserNamed name
    let (others, session) := attachments session rest
    ((verb, id) :: others, session)

def add (session : Session) (rule : String) (reference : Reference) (parsers : List (String × String)) :
    Reported × Session :=
  match session.workshop.target session.objects reference with
  | (.error fault, objects, workshop) => (.error (.fault fault), session.withObjects objects workshop)
  | (.ok target, objects, workshop) =>
    let session := session.withObjects objects workshop
    let (attached, session) := session.attachments parsers
    let (result, app) := session.app.add rule target attached
    ((result.map .route).mapError .register, session.withApp app)

def addAll (session : Session) (entries : List (String × Reference)) : Reported × Session :=
  match session.workshop.targets session.objects entries with
  | (.error fault, objects, workshop) => (.error (.fault fault), session.withObjects objects workshop)
  | (.ok targets, objects, workshop) =>
    let session := session.withObjects objects workshop
    let (result, app) := session.app.addAll (putAll [] targets)
    ((result.map .routes).mapError .register, session.withApp app)

-- The verbs of the resource that a reference stands for; a class is no resource itself.
def listVerbs (session : Session) : Reference → Reported × Session
  | .fresh cls =>
    match session.workshop.class? cls with
    | .error fault => (.error (.fault fault), session)
    | .ok _ => (.ok (.verbs []), session)
  | .plain _ => (.ok (.verbs []), session)
  | .shared cls key =>
    match session.workshop.instance? session.objects cls key with
    | (.error fault, objects, workshop) => (.error (.fault fault), session.withObjects objects workshop)
    | (.ok resource, objects, workshop) =>
      let session := session.withObjects objects workshop
      (.ok (.verbs (session.app.registry.allowed resource)), session)

def run (session : Session) : Instruction → Reported × Session
  | .makeParser name defaults parameters => session.makeParser name defaults parameters
  | .addParameter parser name settings => session.addParameter parser name settings
  | .add rule reference parsers => session.add rule reference parsers
  | .addAll entries => session.addAll entries
  | .listRoutes =>
    let registry := session.app.registry
    (.ok (.listing (registry.router.table.map fun route => (route, registry.allowed route.resource))), session)
  | .listVerbs reference => session.listVerbs reference
  | .addMiddleware middleware => (.ok .done, session.withApp (session.app.addMiddleware middleware))
  | .listBuilds => (.ok (.tags session.app.builds), session)
  | .call scope chunks =>
    let (app, delivery) := session.app.call scope { pending := chunks }
    ((delivery.map .messages).mapError .ofSilence, session.withApp app)
  | .lifespan events =>
    let (app, call) := session.app.live events
    ((call.lifespan.map .life).mapError .fault, session.withApp app)
  | .launch keywords terminal main =>
    match session.app.launch terminal main keywords with
    | .error e => (.error (.fault e.fault), session)
    | .ok launch => (.ok (.launched launch), { session with served := session.served ++ [launch.arguments] })
  | .unknown name => (.error (.fault (.of "Unsupported" name)), session)

def runAll (session : Session) : List Instruction → Except InstructionError Unit × Session
  | [] => (.ok (), session)
  | instruction :: rest =>
    match session.run instruction with
    | (.error e, session) => (.error e, session)
    | (.ok _, session) => session.runAll rest

end Session
end RestDispatch
