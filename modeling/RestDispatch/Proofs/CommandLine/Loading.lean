import RestDispatch.CommandLine.Basic
import RestDispatch.Proofs.Text.Pieces
import RestDispatch.Proofs.Value.Entries
import Mathlib.Data.List.Basic

set_option autoImplicit false

/-!
Loading an application by the path of a file. Main statement: it is the preferred variable of the module of that name, and the
target that is made of both names loads the same from the directory of the file, where modules are found as they are found
with this directory as the current one; otherwise the program ends with the code 1, unless what the import raised asks the
program to stop.
-/
namespace RestDispatch

theorem Disk.walk_contains (disk : Disk) (start place names : List String) (arrives : disk.walk start names = .ok place) :
    disk.contains place = true := by
  induction names generalizing start with
  | nil =>
    rw [walk] at arrives
    split at arrives
    · obtain rfl := Except.ok.inj arrives
      assumption
    · cases arrives
  | cons name rest ih =>
    rw [walk] at arrives
    split at arrives
    · cases arrives
    · split at arrives
      · exact ih _ arrives
      · split at arrives
        · cases arrives
        · exact ih _ arrives

theorem sorted_texts (texts : List String) : (texts.mergeSort fun a b => decide (a ≤ b)).Pairwise (· ≤ ·) := by
  have transitive : ∀ a b c : String, decide (a ≤ b) = true → decide (b ≤ c) = true → decide (a ≤ c) = true := by
    intro a b c
    simpa using String.le_trans
  have total : ∀ a b : String, (decide (a ≤ b) || decide (b ≤ a)) = true := by
    intro a b
    simpa using String.le_total a b
  simpa using List.pairwise_mergeSort transitive total texts

namespace Namespace

-- The variables that are looked at.
def Candidate (name : String) : Prop := name = "app" ∨ name = "api" ∨ isPublic name = true

-- The variable that is taken for the application: `app`, else `api`, else the least public one that is bound to one.
inductive Chosen (bindings : Namespace) : String → App → Prop where
  | app (app : App) (bound : bindings.app? "app" = some app) : Chosen bindings "app" app
  | api (app : App) (unbound : bindings.app? "app" = none) (bound : bindings.app? "api" = some app) : Chosen bindings "api" app
  | other (name : String) (app : App) (unbound : bindings.app? "app" = none) (unboundApi : bindings.app? "api" = none)
      (visible : isPublic name = true) (bound : bindings.app? name = some app)
      (least : ∀ other, isPublic other = true → (bindings.app? other).isSome = true → name ≤ other) : Chosen bindings name app

theorem Chosen.bound (bindings : Namespace) (name : String) (app : App) (chosen : bindings.Chosen name app) :
    bindings.app? name = some app := by
  cases chosen <;> assumption

theorem mem_public_names (bindings : Namespace) (name : String) (app : App) (bound : bindings.app? name = some app)
    (isPublic : isPublic name = true) : name ∈ bindings.publicNames := by
  rw [publicNames, List.mem_mergeSort, List.mem_filter]
  refine ⟨?_, isPublic⟩
  apply (lookup_is_some_iff bindings name).mp
  cases found : bindings.lookup name with
  | none =>
    rw [app?, found] at bound
    cases bound
  | some binding => rfl

theorem public_of_mem (bindings : Namespace) (name : String) (member : name ∈ bindings.publicNames) : isPublic name = true := by
  rw [publicNames, List.mem_mergeSort, List.mem_filter] at member
  exact member.2

theorem public_names_sorted (bindings : Namespace) : bindings.publicNames.Pairwise (· ≤ ·) := sorted_texts _

theorem app_name_none_iff (bindings : Namespace) :
    bindings.appName? = none ↔ ∀ name, Candidate name → bindings.app? name = none := by
  rw [appName?, List.find?_eq_none]
  constructor
  · intro unbound name candidate
    cases bound : bindings.app? name with
    | none => rfl
    | some app =>
      have listed : name ∈ ["app", "api"] ++ bindings.publicNames := by
        rcases candidate with rfl | rfl | isPublic
        · simp
        · simp
        · exact List.mem_append_right _ (mem_public_names bindings name app bound isPublic)
      exact absurd (by rw [bound]; rfl) (unbound name listed)
  · intro unbound name listed
    have candidate : Candidate name := by
      rcases List.mem_append.mp listed with preferred | other
      · rcases List.mem_cons.mp preferred with first | second
        · exact Or.inl first
        · exact Or.inr (Or.inl (List.mem_singleton.mp second))
      · exact Or.inr (Or.inr (public_of_mem bindings name other))
    rw [unbound name candidate]
    exact Bool.false_ne_true

-- The first of sorted names that passes is the least one that does.
theorem find_least (names : List String) (passes : String → Bool) (name : String) (sorted : names.Pairwise (· ≤ ·))
    (found : names.find? passes = some name) : ∀ other ∈ names, passes other = true → name ≤ other := by
  obtain ⟨_, before, after, rfl, others⟩ := List.find?_eq_some_iff_append.mp found
  intro other member passed
  rcases List.mem_append.mp member with earlier | later
  · have failed := others other earlier
    rw [passed] at failed
    cases failed
  · rcases List.mem_cons.mp later with rfl | behind
    · exact String.le_refl _
    · exact (List.pairwise_cons.mp (List.pairwise_append.mp sorted).2.1).1 other behind

theorem app_name_chosen (bindings : Namespace) (name : String) (found : bindings.appName? = some name) :
    ∃ app, bindings.Chosen name app := by
  have held := List.find?_some found
  obtain ⟨app, bound⟩ := Option.isSome_iff_exists.mp held
  rw [appName?, List.cons_append, List.find?_cons] at found
  refine ⟨app, ?_⟩
  cases first : bindings.app? "app" with
  | some other =>
    simp only [first, Option.isSome_some, Option.some.injEq] at found
    subst found
    exact .app app bound
  | none =>
    simp only [first, Option.isSome_none, List.cons_append, List.nil_append, List.find?_cons] at found
    cases second : bindings.app? "api" with
    | some other =>
      simp only [second, Option.isSome_some, Option.some.injEq] at found
      subst found
      exact .api app first bound
    | none =>
      simp only [second, Option.isSome_none] at found
      have visible := public_of_mem bindings name (List.mem_of_find?_eq_some found)
      refine .other name app first second visible bound ?_
      intro other otherVisible otherBound
      obtain ⟨otherApp, held⟩ := Option.isSome_iff_exists.mp otherBound
      have listed := mem_public_names bindings other otherApp held otherVisible
      exact find_least _ _ name bindings.public_names_sorted found other listed otherBound

end Namespace

-- The name of a file holds no letters but those of its path.
theorem file_name_within (path : String) (c : Char) (member : c ∈ (fileName path).toList) : c ∈ path.toList := by
  rw [fileName] at member
  cases last : (pathNames path).getLast? with
  | none =>
    rw [last] at member
    cases member
  | some name =>
    rw [last, Option.getD_some] at member
    have listed : name ∈ Text.splitText '/' path := (List.mem_filter.mp (List.mem_of_getLast? last)).1
    obtain ⟨piece, split, rfl⟩ := List.mem_map.mp listed
    have within := Text.piece_sublist '/' _ piece split
    rw [Text.join_split] at within
    exact within.subset (by simpa using member)

theorem without_extension_within (name : String) (c : Char) (member : c ∈ (withoutExtension name).toList) : c ∈ name.toList := by
  rw [withoutExtension] at member
  split at member
  · rename_i extension front cut
    split at member
    · exact member
    · have whole := (Text.cut_eq_some_iff '.' _ _ _).mp cut
      have reversed : c ∈ name.toList.reverse := by
        rw [whole.2]
        have kept : c ∈ front := by simpa using member
        simp [kept]
      exact List.mem_reverse.mp reversed
  · exact member

theorem stem_within (path : String) (c : Char) (member : c ∈ (stem path).toList) : c ∈ path.toList :=
  file_name_within path c (without_extension_within _ c member)

namespace Workplace

theorem load_path (workplace : Workplace) (path : String) (uncut : ':' ∉ path.toList) : workplace.load path = workplace.loadFile path := by
  rw [load, (Text.cut_eq_none_iff ':' path.toList).mpr uncut]

theorem load_target (workplace : Workplace) (module name : String) (uncut : ':' ∉ module.toList) :
    workplace.load (module ++ ":" ++ name) = workplace.loadFrom workplace.current module (inTarget (module ++ ":" ++ name) name) := by
  have cut : Text.cut? ':' (module ++ ":" ++ name).toList = some (module.toList, name.toList) := by
    apply (Text.cut_eq_some_iff ':' _ _ _).mpr
    exact ⟨uncut, by simp⟩
  rw [load, cut]
  simp

-- The workplace after a change of the directory.
def movedTo (workplace : Workplace) (directory : List String) : Workplace := { workplace with current := directory }

theorem locate_contains (workplace : Workplace) (path : String) (place : List String) (there : workplace.locate path = .ok place) :
    workplace.disk.contains place = true := by
  rw [locate] at there
  split at there
  · cases there
  · exact workplace.disk.walk_contains _ place _ there

-- A path that starts with a slash leads to the same place from everywhere.
theorem load_absolute (workplace : Workplace) (path : String) (directory : List String) (uncut : ':' ∉ path.toList)
    (absolute : isAbsolute path = true) : (workplace.movedTo directory).load path = workplace.load path := by
  have same : (workplace.movedTo directory).locate path = workplace.locate path := by
    simp only [locate, absolute, if_true]
    rfl
  rw [load_path _ path uncut, load_path _ path uncut, loadFile, loadFile, same]
  rfl

-- Why no application is loaded by the path of a file.
inductive Unloaded (workplace : Workplace) (path : String) : LoadError → Prop where
  | missing (absent : workplace.locate path = .error .absent) : Unloaded workplace path (.noFile path)
  | long (long : workplace.locate path = .error .tooLong) : Unloaded workplace path (.longPath path)
  | importing (place : List String) (fault : Fault) (there : workplace.locate path = .ok place)
      (failed : (workplace.disk.importModule place.dropLast (stem path)).result = .error fault) :
      Unloaded workplace path (.importing (stem path) fault)
  | appless (place : List String) (bindings : Namespace) (there : workplace.locate path = .ok place)
      (imported : (workplace.disk.importModule place.dropLast (stem path)).result = .ok bindings)
      (unbound : ∀ name, Namespace.Candidate name → bindings.app? name = none) : Unloaded workplace path (.noApp path)

-- An application that is loaded by the path of a file, and by the target that is made of it in the directory of the file.
structure Loaded (workplace : Workplace) (path : String) (place : List String) (name : String) (app : App) : Prop where
  there : workplace.locate path = .ok place
  present : workplace.disk.contains place = true
  chosen : ∃ bindings : Namespace,
    (workplace.disk.importModule place.dropLast (stem path)).result = .ok bindings ∧ bindings.Chosen name app
  file : (workplace.load path).result = .ok (stem path ++ ":" ++ name, app)
  anywhere : isAbsolute path = true → ∀ directory, (workplace.movedTo directory).load path = workplace.load path
  target : (workplace.movedTo place.dropLast).load (stem path ++ ":" ++ name) = workplace.load path

theorem loaded_or_unloaded (workplace : Workplace) (path : String) (uncut : ':' ∉ path.toList) :
    (∃ e, (workplace.load path).result = .error e ∧ workplace.Unloaded path e) ∨
      ∃ place name app, workplace.Loaded path place name app := by
  have file := workplace.load_path path uncut
  rw [loadFile] at file
  cases there : workplace.locate path with
  | error e =>
    rw [there] at file
    cases e with
    | absent => exact Or.inl ⟨_, congrArg Loading.result file, .missing there⟩
    | tooLong => exact Or.inl ⟨_, congrArg Loading.result file, .long there⟩
  | ok place =>
    simp only [there, loadFrom] at file
    cases imported : (workplace.disk.importModule place.dropLast (stem path)).result with
    | error fault =>
      refine Or.inl ⟨.importing (stem path) fault, ?_, .importing place fault there imported⟩
      rw [file, imported]
      rfl
    | ok bindings =>
      cases found : bindings.appName? with
      | none =>
        have unbound := (bindings.app_name_none_iff).mp found
        refine Or.inl ⟨.noApp path, ?_, .appless place bindings there imported unbound⟩
        rw [file, imported]
        exact (by simp [inFile, found] : inFile path (stem path) bindings = .error (.noApp path))
      | some name =>
        obtain ⟨app, chosen⟩ := bindings.app_name_chosen name found
        have bound := Namespace.Chosen.bound bindings name app chosen
        have clean : ':' ∉ (stem path).toList := fun member => uncut (stem_within path ':' member)
        have loaded : (workplace.load path).result = .ok (stem path ++ ":" ++ name, app) := by
          rw [file, imported]
          exact (by simp [inFile, found, bound] : inFile path (stem path) bindings = .ok (stem path ++ ":" ++ name, app))
        refine Or.inr ⟨place, name, app, there, workplace.locate_contains path place there, ⟨bindings, imported, chosen⟩, loaded, ?_, ?_⟩
        · exact fun absolute directory => workplace.load_absolute path directory uncut absolute
        · have target : (inTarget (stem path ++ ":" ++ name) name bindings) = .ok (stem path ++ ":" ++ name, app) := by
            rw [inTarget, bound]
          rw [load_target _ (stem path) name clean, loadFrom, movedTo, file, imported]
          rw [file, imported] at loaded
          exact congrArg (Loading.mk · _) (target.trans loaded.symm)

-- Whatever command is given the path, the program ends with the code 1.
def ExitsOne (workplace : Workplace) (path : String) : Prop :=
  ∀ (command : Command) (terminal : Bool), command.target = path →
    ∃ ending, command.execute workplace terminal = .ok ending ∧ ending.exit = .number 1

-- The program ends as a fault asks for that was raised while the module was imported, or where that was told.
def Stops (workplace : Workplace) (path : String) (fault : Fault) : Prop :=
  ∀ (command : Command) (terminal : Bool), command.target = path →
    command.execute workplace terminal =
      (Command.stopped fault).map fun ending => { ending with served := (workplace.load path).served ++ ending.served }

end Workplace

-- What asks the program to stop where a fault is caught and told: the fault itself, or what is raised where its text is asked for.
inductive Fault.Asks (fault : Fault) : Fault → Prop where
  | itself (stops : fault.stops = true) : Asks fault fault
  | telling (raised : Fault) (caught : fault.stops = false) (mute : fault.told = .error raised) (stops : raised.stops = true) :
      Asks fault raised

def LoadError.Asks : LoadError → Fault → Prop
  | .importing _ fault, asking => fault.Asks asking
  | _, _ => False

namespace Command

theorem failed_asked (terminal : Bool) (e : LoadError) (asking : Fault) (asks : e.Asks asking) : failed terminal e = stopped asking := by
  cases e with
  | importing name fault =>
    cases asks with
    | itself stops => simp only [failed, stops, if_true]
    | telling raised caught mute stops => simp only [failed, caught, mute, stops, Bool.false_eq_true, if_false, if_true]
  | _ => exact asks.elim

theorem failed_unasked (terminal : Bool) (e : LoadError) (unasked : ∀ asking, ¬ e.Asks asking) :
    ∃ ending, failed terminal e = .ok ending ∧ ending.exit = .number 1 := by
  cases e with
  | importing name fault =>
    have caught : fault.stops = false := Bool.eq_false_iff.mpr fun stops => unasked fault (.itself stops)
    cases mute : fault.told with
    | ok text =>
      simp only [failed, caught, mute, Bool.false_eq_true, if_false]
      exact ⟨_, rfl, rfl⟩
    | error raised =>
      have goes : raised.stops = false := Bool.eq_false_iff.mpr fun stops => unasked raised (.telling raised caught mute stops)
      simp only [failed, caught, mute, goes, Bool.false_eq_true, if_false]
      exact ⟨_, rfl, rfl⟩
  | _ => exact ⟨_, rfl, rfl⟩

end Command

namespace Workplace

theorem unloaded_exits (workplace : Workplace) (path : String) (e : LoadError) (failed : (workplace.load path).result = .error e)
    (unasked : ∀ asking, ¬ e.Asks asking) : workplace.ExitsOne path := by
  rintro command terminal rfl
  obtain ⟨ending, ended, one⟩ := Command.failed_unasked terminal e unasked
  simp only [Command.execute, failed, ended]
  exact ⟨_, rfl, one⟩

theorem unloaded_stops (workplace : Workplace) (path : String) (e : LoadError) (failed : (workplace.load path).result = .error e)
    (asking : Fault) (asks : e.Asks asking) : workplace.Stops path asking := by
  rintro command terminal rfl
  simp only [Command.execute, failed, Command.failed_asked terminal e asking asks]

-- How loading by the path of a file ends.
theorem file_and_target_agree (workplace : Workplace) (path : String) (uncut : ':' ∉ path.toList) :
    (∃ e, (workplace.load path).result = .error e ∧ workplace.Unloaded path e ∧
      ((∀ asking, ¬ e.Asks asking) → workplace.ExitsOne path) ∧ ∀ asking, e.Asks asking → workplace.Stops path asking) ∨
      ∃ place name app, workplace.Loaded path place name app := by
  rcases workplace.loaded_or_unloaded path uncut with ⟨e, failed, unloaded⟩ | loaded
  · exact Or.inl ⟨e, failed, unloaded, workplace.unloaded_exits path e failed, workplace.unloaded_stops path e failed⟩
  · exact Or.inr loaded

-- A module that asks the program to stop while it is imported.
def quitFault : Fault := { kind := "SystemExit", text := "3", exit := some (.code 3) }

def quitting : Workplace := { disk := { files := [(["main.py"], { result := .error quitFault })] } }

theorem stopping_import_exits_otherwise :
    ':' ∉ "main.py".toList ∧
      ¬ (quitting.ExitsOne "main.py" ∨ ∃ target app, (quitting.load "main.py").result = .ok (target, app)) := by
  have failed : (quitting.load "main.py").result = .error (.importing "main" quitFault) := by rfl
  refine ⟨by decide, ?_⟩
  rintro (exits | ⟨target, app, loaded⟩)
  · obtain ⟨ending, ended, one⟩ := exits (.routes "main.py") false rfl
    have stopped := quitting.unloaded_stops "main.py" _ failed quitFault (.itself rfl) (.routes "main.py") false rfl
    rw [ended] at stopped
    have three : ending.exit = .number 3 := by
      rw [Except.ok.inj stopped]
    rw [three] at one
    exact absurd one (by decide)
  · rw [failed] at loaded
    cases loaded

-- A site that lies aside of the directory where the program runs. Its variable `app` is bound to something else.
def siteBindings : Namespace := [("app", none), ("page", some (App.new false false)), ("_app", some (App.new true false))]

def site : Workplace :=
  { disk := { files := [(["srv", "site", "main.py"], { result := .ok siteBindings })], directories := [["srv", "www"]] }
    current := ["srv", "www"] }

theorem site_chosen (name : String) (app : App) (chosen : siteBindings.Chosen name app) : name = "page" ∧ app = App.new false false := by
  have bound := chosen.bound
  cases chosen with
  | app | api => cases bound
  | other _ _ _ _ visible =>
    simp only [Namespace.app?, siteBindings, List.lookup_cons] at bound
    split at bound
    · cases bound
    · split at bound
      · exact ⟨eq_of_beq ‹_›, (Option.some.inj bound).symm⟩
      · split at bound
        · obtain rfl := eq_of_beq ‹(name == "_app") = true›
          exact absurd visible (by decide)
        · cases bound

theorem page_loaded_beside_decoy :
    let page := App.new false false
    ':' ∉ "../site/main.py".toList ∧ (site.load "../site/main.py").result = .ok ("main:page", page) ∧
      ':' ∉ "/srv/site/main.py".toList ∧ (site.load "/srv/site/main.py").result = .ok ("main:page", page) ∧
      ((site.movedTo ["srv", "site"]).load "main:page").result = .ok ("main:page", page) := by
  intro page
  have imported : (site.disk.importModule ["srv", "site"] "main").result = .ok siteBindings := by rfl
  have each : ∀ path, ':' ∉ path.toList → site.locate path = .ok ["srv", "site", "main.py"] → stem path = "main" →
      (site.load path).result = .ok ("main:page", page) ∧
        ((site.movedTo ["srv", "site"]).load "main:page").result = .ok ("main:page", page) := by
    intro path uncut there named
    rcases site.file_and_target_agree path uncut with ⟨e, _, unloaded, _⟩ | ⟨place, name, app, loaded⟩
    · cases unloaded with
      | missing absent => cases there.symm.trans absent
      | long long => cases there.symm.trans long
      | importing place fault found failed =>
        obtain rfl := Except.ok.inj (there.symm.trans found)
        rw [named] at failed
        cases imported.symm.trans failed
      | appless place bindings found read unbound =>
        obtain rfl := Except.ok.inj (there.symm.trans found)
        rw [named] at read
        obtain rfl := Except.ok.inj (imported.symm.trans read)
        cases unbound "page" (Or.inr (Or.inr (by decide)))
    · obtain rfl := Except.ok.inj (there.symm.trans loaded.there)
      obtain ⟨bindings, read, chosen⟩ := loaded.chosen
      have file := loaded.file
      have target := loaded.target
      rw [named] at read file target
      obtain rfl := Except.ok.inj (imported.symm.trans read)
      obtain ⟨rfl, rfl⟩ := site_chosen name app chosen
      exact ⟨file, (congrArg Loading.result target).trans file⟩
  have aside := each "../site/main.py" (by decide) rfl rfl
  have absolute := each "/srv/site/main.py" (by decide) rfl rfl
  exact ⟨by decide, aside.1, by decide, absolute.1, absolute.2⟩

end Workplace
end RestDispatch
