import RestDispatch.Launch.Server
import RestDispatch.Proofs.Value.Entries

set_option autoImplicit false

/-!
What a server is started on. Main statement: it is given the first variable that is bound to the application, and the module
by the name that it was started under, else by that of its file; where the main module has neither, no error is raised, and the
module that the server is given is the word None.
-/
namespace RestDispatch

namespace MainModule

section
variable (main : MainModule)

def FirstBound (name : String) : Prop :=
  ∃ before after, main.bindings = before ++ (name, .thisApp) :: after ∧ ∀ entry ∈ before, entry.2 ≠ .thisApp

-- Neither started under a name nor bound to anything that would be asked for one.
def Unspecified : Prop :=
  ∀ binding, main.bindings.lookup "__spec__" = some binding → binding = .spec "" ∨ binding.truthy = false

def Unfiled : Prop := ∀ binding, main.bindings.lookup "__file__" = some binding → binding.truthy = false

-- The name under which the main module can be imported.
inductive Importable : String → Prop where
  | started (module : String) (spec : main.bindings.lookup "__spec__" = some (.spec module)) (named : module ≠ "") : Importable module
  | filed (path : List Letter) (unspecified : main.Unspecified) (file : main.bindings.lookup "__file__" = some (.value (.text path)))
      (named : path ≠ []) : Importable (stem (Text.held path))

-- The name under which a server is told to import it.
inductive NamedAs : String → Prop where
  | importable (module : String) (name : main.Importable module) : NamedAs module
  | nameless (unspecified : main.Unspecified) (unfiled : main.Unfiled) : NamedAs "None"

end

theorem is_this_app_iff (binding : Binding) : binding.isThisApp = true ↔ binding = .thisApp := by
  cases binding <;> simp [Binding.isThisApp]

theorem variable_of_app_iff (main : MainModule) (name : String) : main.variableOfApp? = some name ↔ main.FirstBound name := by
  rw [variableOfApp?, Option.map_eq_some_iff]
  constructor
  · rintro ⟨⟨_, binding⟩, found, rfl⟩
    obtain ⟨bound, before, after, split, others⟩ := List.find?_eq_some_iff_append.mp found
    obtain rfl := (is_this_app_iff binding).mp bound
    refine ⟨before, after, split, ?_⟩
    intro other member same
    simpa [same, Binding.isThisApp] using others other member
  · rintro ⟨before, after, split, others⟩
    refine ⟨(name, .thisApp), List.find?_eq_some_iff_append.mpr ⟨rfl, before, after, split, ?_⟩, rfl⟩
    intro other member
    cases bound : other.2.isThisApp with
    | true => exact absurd ((is_this_app_iff other.2).mp bound) (others other member)
    | false => rfl

theorem bound_eq_none_iff (main : MainModule) (name : String) :
    main.bound? name = none ↔ ∀ binding, main.bindings.lookup name = some binding → binding.truthy = false := by
  rw [bound?, Option.filter_eq_none_iff]
  simp

theorem bound_eq_some_iff (main : MainModule) (name : String) (binding : Binding) :
    main.bound? name = some binding ↔ main.bindings.lookup name = some binding ∧ binding.truthy = true := Option.filter_eq_some_iff

-- Where nothing tells a name, the file decides.
theorem module_name_unspecified (main : MainModule) (unspecified : main.Unspecified) : main.moduleName = main.fileStem := by
  rw [moduleName]
  cases bound : main.bound? "__spec__" with
  | none => rfl
  | some binding =>
    obtain ⟨held, truthy⟩ := (bound_eq_some_iff main _ binding).mp bound
    rcases unspecified binding held with rfl | falsy
    · rfl
    · rw [falsy] at truthy
      cases truthy

theorem file_named (main : MainModule) (module : String) (unspecified : main.Unspecified) (told : main.fileStem = .ok module) :
    main.NamedAs module := by
  rw [fileStem] at told
  split at told
  case h_1 bound =>
    obtain rfl := Except.ok.inj told
    exact .nameless unspecified ((bound_eq_none_iff main _).mp bound)
  case h_2 path bound =>
    obtain ⟨file, truthy⟩ := (bound_eq_some_iff main _ _).mp bound
    obtain rfl := Except.ok.inj told
    refine .importable _ (.filed path unspecified file ?_)
    rintro rfl
    cases truthy
  case h_3 => cases told

theorem module_name_ok_iff (main : MainModule) (module : String) : main.moduleName = .ok module ↔ main.NamedAs module := by
  constructor
  · intro told
    rw [moduleName] at told
    split at told
    case h_1 bound =>
      have unspecified : main.Unspecified := fun binding held => Or.inr ((bound_eq_none_iff main _).mp bound binding held)
      exact main.file_named module unspecified told
    case h_2 name bound =>
      obtain ⟨spec, _⟩ := (bound_eq_some_iff main _ _).mp bound
      by_cases blank : name = ""
      · subst blank
        have unspecified : main.Unspecified := by
          intro binding held
          rw [spec] at held
          exact Or.inl (Option.some.inj held).symm
        exact main.file_named module unspecified told
      · rw [if_neg blank] at told
        obtain rfl := Except.ok.inj told
        exact .importable name (.started name spec blank)
    case h_3 => cases told
  · intro named
    cases named with
    | nameless unspecified unfiled =>
      have bound := (bound_eq_none_iff main "__file__").mpr unfiled
      rw [main.module_name_unspecified unspecified, fileStem, bound]
    | importable _ name =>
      cases name with
      | started _ spec named =>
        have bound := (bound_eq_some_iff main "__spec__" (.spec module)).mpr ⟨spec, rfl⟩
        simp only [moduleName, bound, if_neg named]
      | filed path unspecified file named =>
        have bound := (bound_eq_some_iff main "__file__" (.value (.text path))).mpr ⟨file, by simpa [Binding.truthy, Value.truthy] using named⟩
        rw [main.module_name_unspecified unspecified, fileStem, bound]

theorem target_ok_iff (main : Option MainModule) (told : String) :
    target main = .ok told ↔
      ∃ given name module, main = some given ∧ given.FirstBound name ∧ given.NamedAs module ∧ told = module ++ ":" ++ name := by
  cases main with
  | none => simp [target]
  | some main =>
    cases bound : main.variableOfApp? with
    | none =>
      have unbound : ∀ name, ¬ main.FirstBound name := by
        intro name first
        rw [(main.variable_of_app_iff name).mpr first] at bound
        cases bound
      simp [target, bound, unbound]
    | some name =>
      have first := (main.variable_of_app_iff name).mp bound
      have only : ∀ other, main.FirstBound other → other = name := by
        intro other again
        rw [(main.variable_of_app_iff other).mpr again] at bound
        exact Option.some.inj bound
      simp only [target, bound]
      constructor
      · intro made
        cases told : main.moduleName with
        | error e =>
          rw [told] at made
          cases made
        | ok module =>
          rw [told] at made
          exact ⟨main, name, module, rfl, first, (main.module_name_ok_iff module).mp told, (Except.ok.inj made).symm⟩
      · rintro ⟨_, other, module, given, again, named, rfl⟩
        obtain rfl := Option.some.inj given
        rw [only other again, (main.module_name_ok_iff module).mpr named]
        rfl

-- No main module, or none of whose variables is bound to the application.
theorem target_unbound (main : Option MainModule) (unbound : ∀ given name, main = some given → ¬ given.FirstBound name) :
    ∃ e, target main = .error e ∧ e.fault.kind = "RuntimeError" := by
  cases main with
  | none => exact ⟨.noMainModule, rfl, rfl⟩
  | some main =>
    have none : main.variableOfApp? = none := by
      apply Option.eq_none_iff_forall_not_mem.mpr
      intro name bound
      exact unbound main name rfl ((main.variable_of_app_iff name).mp bound)
    exact ⟨.noVariable, by rw [target, none], rfl⟩

end MainModule

-- The names of the arguments that a server is started with in any case.
def LaunchSettings.own : List String := ["target", "address", "port", "interface", "workers", "reload", "log_level", "log_access"]

-- Settings that the banner can show, and that give the server no argument twice.
structure LaunchSettings.Startable (settings : LaunchSettings) : Prop where
  host : ∃ text, settings.host.plainText? = some text
  port : ∃ text, settings.port.plainText? = some text
  workers : ∃ text, settings.workers.plainText? = some text
  once : ∀ extra ∈ settings.extras, extra.1 ∉ own

namespace Launch

theorem own_arguments (settings : LaunchSettings) (target : String) :
    (settings.arguments target).map Prod.fst = LaunchSettings.own := rfl

theorem start_ok (terminal : Bool) (target : String) (settings : LaunchSettings) (startable : settings.Startable) :
    ∃ launch, start terminal target settings = .ok launch := by
  obtain ⟨host, shownHost⟩ := startable.host
  obtain ⟨port, shownPort⟩ := startable.port
  obtain ⟨workers, shownWorkers⟩ := startable.workers
  have once : settings.extras.find? (fun extra => ((settings.arguments target).lookup extra.1).isSome) = none := by
    apply List.find?_eq_none.mpr
    intro extra member twice
    apply startable.once extra member
    rw [lookup_is_some_iff, own_arguments] at twice
    exact twice
  simp only [start, banner?, shownHost, shownPort, shownWorkers, once, Option.bind_eq_bind, Option.bind_some]
  exact ⟨_, rfl⟩

theorem start_target (terminal : Bool) (target : String) (settings : LaunchSettings) (launch : Launch)
    (started : start terminal target settings = .ok launch) : launch.arguments.lookup "target" = some (.text target) := by
  rw [start] at started
  split at started
  case h_1 => cases started
  case h_2 =>
    split at started
    · cases started
    · obtain rfl := Except.ok.inj started
      rfl

end Launch

theorem App.launch_unrouted (app : App) (terminal : Bool) (main : Option MainModule) (keywords : Entries)
    (own : "self" ∉ keywords.map Prod.fst) (empty : app.registry.router.table = []) :
    app.launch terminal main keywords = .error .noRoutes := by
  have unselfish : ¬ (keywords.lookup "self").isSome = true := fun twice => own ((lookup_is_some_iff keywords "self").mp twice)
  rw [launch, if_neg unselfish, empty]
  rfl

theorem App.launch_eq (app : App) (terminal : Bool) (main : Option MainModule) (keywords : Entries) (own : "self" ∉ keywords.map Prod.fst)
    (routed : app.registry.router.table ≠ []) :
    app.launch terminal main keywords =
      ((MainModule.target main).mapError LaunchError.target).bind fun target => Launch.start terminal target (.ofEntries keywords) := by
  have unselfish : ¬ (keywords.lookup "self").isSome = true := fun twice => own ((lookup_is_some_iff keywords "self").mp twice)
  have unempty : ¬ app.registry.router.table.isEmpty = true := fun empty => routed (List.isEmpty_iff.mp empty)
  rw [launch, if_neg unselfish, if_neg unempty]
  cases MainModule.target main <;> rfl

-- How an application is started, whatever the main module holds and whatever settings are given.
structure App.Starts (app : App) (terminal : Bool) (main : Option MainModule) (keywords : Entries) : Prop where
  unrouted : "self" ∉ keywords.map Prod.fst → app.registry.router.table = [] → app.launch terminal main keywords = .error .noRoutes
  unbound : "self" ∉ keywords.map Prod.fst → app.registry.router.table ≠ [] →
    (∀ given name, main = some given → ¬ given.FirstBound name) →
    ∃ e : TargetError, app.launch terminal main keywords = .error (.target e) ∧ e.fault.kind = "RuntimeError"
  bound : "self" ∉ keywords.map Prod.fst → app.registry.router.table ≠ [] → (LaunchSettings.ofEntries keywords).Startable →
    ∀ given name module, main = some given → given.FirstBound name → given.NamedAs module →
    ∃ launch, app.launch terminal main keywords = .ok launch
  started : ∀ launch, app.launch terminal main keywords = .ok launch → app.registry.router.table ≠ [] ∧
    ∃ (given : MainModule) (name module : String), main = some given ∧ given.FirstBound name ∧
      launch.arguments.lookup "target" = some (.text (module ++ ":" ++ name : String)) ∧
      (given.Importable module ∨ given.Unspecified ∧ given.Unfiled ∧ module = "None")

theorem App.starts_on_target (app : App) (terminal : Bool) (main : Option MainModule) (keywords : Entries) :
    app.Starts terminal main keywords := by
  constructor
  case unrouted => exact app.launch_unrouted terminal main keywords
  case unbound =>
    intro own routed unbound
    obtain ⟨e, failed, kind⟩ := MainModule.target_unbound main unbound
    exact ⟨e, by rw [app.launch_eq terminal main keywords own routed, failed]; rfl, kind⟩
  case bound =>
    intro own routed startable given name module isMain first named
    have told := (MainModule.target_ok_iff main (module ++ ":" ++ name)).mpr ⟨given, name, module, isMain, first, named, rfl⟩
    rw [app.launch_eq terminal main keywords own routed, told]
    exact Launch.start_ok terminal _ _ startable
  case started =>
    intro launch started
    have own : "self" ∉ keywords.map Prod.fst := by
      intro twice
      rw [App.launch, if_pos ((lookup_is_some_iff keywords "self").mpr twice)] at started
      cases started
    have routed : app.registry.router.table ≠ [] := by
      intro empty
      rw [app.launch_unrouted terminal main keywords own empty] at started
      cases started
    rw [app.launch_eq terminal main keywords own routed] at started
    cases target : MainModule.target main with
    | error e =>
      rw [target] at started
      cases started
    | ok told =>
      rw [target] at started
      obtain ⟨given, name, module, isMain, first, named, rfl⟩ := (MainModule.target_ok_iff main told).mp target
      refine ⟨routed, given, name, module, isMain, first, Launch.start_target terminal _ _ launch started, ?_⟩
      cases named with
      | importable _ importable => exact Or.inl importable
      | nameless unspecified unfiled => exact Or.inr ⟨unspecified, unfiled, rfl⟩

-- An application with one route, in a main module that has neither a name nor a file.
theorem nameless_main_started :
    let app := ((App.new false false).add "/page" (.existing (.plain 0 (.int 5))) []).2
    let main : MainModule := { bindings := MainModule.start none none ++ [("api", .thisApp)] }
    (¬ ∃ module, main.Importable module) ∧
      ∃ launch, app.launch false (some main) [] = .ok launch ∧ launch.arguments.lookup "target" = some (.text "None:api") := by
  intro app main
  have starts := app.starts_on_target false (some main) []
  have routed : app.registry.router.table ≠ [] := List.cons_ne_nil _ _
  have startable : (LaunchSettings.ofEntries []).Startable := ⟨⟨_, rfl⟩, ⟨_, rfl⟩, ⟨_, rfl⟩, List.forall_mem_nil _⟩
  have first : main.variableOfApp? = some "api" := rfl
  have unspecified : main.Unspecified := by
    intro binding held
    exact Or.inr ((MainModule.bound_eq_none_iff main "__spec__").mp rfl binding held)
  have unfiled : main.Unfiled := (MainModule.bound_eq_none_iff main "__file__").mp rfl
  have unimportable : ¬ ∃ module, main.Importable module := by
    rintro ⟨module, name⟩
    cases name with
    | started _ spec named => cases spec
    | filed path _ file named => cases file
  refine ⟨unimportable, ?_⟩
  obtain ⟨launch, started⟩ := starts.bound List.not_mem_nil routed startable main "api" "None" rfl
    ((main.variable_of_app_iff "api").mp first) (.nameless unspecified unfiled)
  obtain ⟨_, given, name, module, isMain, again, told, reason⟩ := starts.started launch started
  obtain rfl := Option.some.inj isMain
  have same : name = "api" := by
    rw [(main.variable_of_app_iff name).mpr again] at first
    exact Option.some.inj first
  rcases reason with importable | ⟨_, _, rfl⟩
  · exact absurd ⟨module, importable⟩ unimportable
  · rw [same] at told
    exact ⟨launch, started, told⟩

end RestDispatch
