import Rollout.Backend.Invocation
import Rollout.Proofs.Compile.Naming
import Rollout.Proofs.Path
import Rollout.Proofs.Scenario.Normalized

/-!
# Prepared actions

A relative source is marked when a scenario is normalized and resolved when an action is prepared. The
two steps meet only in the compiled action. Together they give every file a source from the root, and a
relative one exactly its place in the folder of the configuration file (`prepare_rooted`).
-/

namespace Rollout

open Text

/-! ## Sources -/

theorem startsWith_false_of_ne {s p q : String} {a b : Char} (hs : startsWith s p = true)
    (hp : p.toList.head? = some a) (hq : q.toList.head? = some b) (hab : a ≠ b) :
    startsWith s q = false := by
  rw [← Bool.not_eq_true, startsWith_iff]
  rw [startsWith_iff] at hs
  intro hs'
  have first {t : String} {c : Char} (ht : t.toList <+: s.toList) (hc : t.toList.head? = some c) :
      s.toList.head? = some c := by
    obtain ⟨rest, hr⟩ := ht
    rw [← hr, List.head?_append, hc]
    rfl
  exact hab (Option.some.inj ((first hs hp).symm.trans (first hs' hq)))

namespace Invocation

variable {inv : Invocation} {cwd : String}

theorem resolveSource_rooted {src : String} (h : startsWith src "/" = true) :
    inv.resolveSource cwd src = .ok src := by
  have untagged : strip? baseDirToken.toList src.toList = none := by
    rw [strip?_eq_none_iff, ← startsWith_iff, Bool.not_eq_true]
    exact startsWith_false_of_ne h rfl rfl (by decide)
  rw [resolveSource, untagged]

theorem exists_resolveSource (base : inv.baseDir ≠ "") (root : startsWith cwd "/" = true)
    {src : String} {rest : List Char} (h : src.toList = baseDirToken.toList ++ rest) :
    ∃ path, Path.absolute? cwd (Path.join inv.baseDir
        (String.ofList (rest.dropWhile (· = '/')))) = some path ∧
      startsWith path "/" = true ∧ inv.resolveSource cwd src = .ok path := by
  obtain ⟨path, hp, hs⟩ := Path.exists_absolute root
    (Path.join_ne_empty base (String.ofList (rest.dropWhile (· = '/'))))
  refine ⟨path, hp, hs, ?_⟩
  rw [resolveSource, strip?_eq_some_iff.2 h]
  simp only [hp]

/-! ## Files -/

/-- What preparation makes of a file. -/
def Resolves (inv : Invocation) (cwd : String) (file file' : Customization) : Prop :=
  inv.resolveSource cwd file.src = .ok file'.src ∧ file' = { file with src := file'.src }

theorem resolves_of_rooted {file : Customization} (h : startsWith file.src "/" = true) :
    inv.Resolves cwd file file :=
  ⟨resolveSource_rooted h, rfl⟩

theorem resolveFiles_eq {files files' : List Customization}
    (h : List.Forall₂ (inv.Resolves cwd) files files') :
    inv.resolveFiles cwd files = (files', .ok ()) := by
  induction h with
  | nil => rfl
  | cons hf _ ih =>
    rw [resolveFiles, hf.1]
    simp only [ih]
    rw [← hf.2]

theorem prepare_eq {action : Action} {files : List Customization}
    (h : List.Forall₂ (inv.Resolves cwd) action.files files) :
    inv.prepare cwd action = ({ action with
      repository := action.repository.map inv.giveKey
      play := inv.playPath action.play
      inventoryFile := inv.inventory
      privateKey := inv.privateKey
      debug := inv.debug
      files }, .ok ()) := by
  rw [prepare, resolveFiles_eq h]

/-- In a folder that has a path, every source can be resolved. -/
theorem exists_resolves (base : inv.baseDir ≠ "") (cwd : String) (file : Customization) :
    ∃ file', inv.Resolves cwd file file' := by
  have resolved : ∃ src, inv.resolveSource cwd file.src = .ok src := by
    unfold resolveSource
    split
    · exact ⟨_, rfl⟩
    · rename_i rest _
      have path := Path.join_ne_empty base (String.ofList (rest.dropWhile (· = '/')))
      obtain ⟨src, hp⟩ := Option.ne_none_iff_exists'.1 (Path.absolute?_ne_none path cwd)
      exact ⟨src, by simp only [hp]⟩
  obtain ⟨src, hs⟩ := resolved
  exact ⟨{ file with src }, hs, rfl⟩

theorem prepare_result (base : inv.baseDir ≠ "") (cwd : String) (action : Action) :
    (inv.prepare cwd action).2 = .ok () := by
  have resolved (files : List Customization) : ∃ files', List.Forall₂ (inv.Resolves cwd) files files' := by
    induction files with
    | nil => exact ⟨[], .nil⟩
    | cons file files ih =>
      obtain ⟨file', hf⟩ := exists_resolves base cwd file
      obtain ⟨files', hr⟩ := ih
      exact ⟨file' :: files', .cons hf hr⟩
  obtain ⟨files, hf⟩ := resolved action.files
  rw [prepare_eq hf]

theorem giveKey_giveKey (inv : Invocation) (r : Repository) :
    inv.giveKey (inv.giveKey r) = inv.giveKey r := by
  simp only [giveKey]
  split
  · split <;> rfl
  · rfl

/-- How a file that was declared reaches the backend: as it was compiled, and then as it was prepared. -/
structure Delivers (inv : Invocation) (cwd suffix : String) (downloader : Downloader)
    (c : Customization) (files : Customization × Customization) : Prop where
  rooted : startsWith files.2.src "/" = true
  relative : startsWith c.src "http" = false → startsWith c.src "/" = false →
    startsWith c.src baseDirToken = false →
    Path.absolute? cwd (Path.join inv.baseDir c.src) = some files.2.src
  absolute : startsWith c.src "/" = true → files.1.src = c.src ∧ files.2 = files.1
  downloaded : startsWith c.src "http" = true →
    downloader ⟨c.src, suffix⟩ = .ok files.1.src ∧ files.2 = files.1
  rest : files.2 = { files.1 with src := files.2.src }

variable {suffix appDest : String} {downloader : Downloader}

theorem exists_delivers (base : inv.baseDir ≠ "") (root : startsWith cwd "/" = true)
    (absolute : ∀ request path, downloader request = .ok path → startsWith path "/" = true)
    {c file : Customization} (h : (c.configure downloader suffix appDest).result = .ok file) :
    ∃ file', inv.Resolves cwd file file' ∧ inv.Delivers cwd suffix downloader c (file, file') := by
  obtain ⟨src, hs, rfl⟩ := Customization.configure_result_eq_ok h
  have marked {rest : List Char} (hr : src.toList = baseDirToken.toList ++ rest) :=
    exists_resolveSource base root hr
  cases hs with
  | downloaded hr hd =>
    have local_ : startsWith c.src "/" = false := startsWith_false_of_ne hr rfl rfl (by decide)
    have rooted := absolute _ _ hd
    exact ⟨c.settle appDest src, resolves_of_rooted rooted, {
      rooted
      relative := fun hn => (Bool.eq_false_iff.1 hn hr).elim
      absolute := fun ha => (Bool.eq_false_iff.1 local_ ha).elim
      downloaded := fun _ => ⟨hd, rfl⟩
      rest := rfl }⟩
  | kept hr hk =>
    rcases hk with ha | ht
    · exact ⟨c.settle appDest c.src, resolves_of_rooted ha, {
        rooted := ha
        relative := fun _ hn _ => (Bool.eq_false_iff.1 hn ha).elim
        absolute := fun _ => ⟨rfl, rfl⟩
        downloaded := fun hh => (Bool.eq_false_iff.1 hr hh).elim
        rest := rfl }⟩
    · have relative : startsWith c.src "/" = false :=
        startsWith_false_of_ne ht rfl rfl (by decide)
      obtain ⟨rest, hrest⟩ := startsWith_iff.1 ht
      obtain ⟨path, -, rooted, hp⟩ := marked hrest.symm
      exact ⟨c.settle appDest path, ⟨hp, rfl⟩, {
        rooted
        relative := fun _ _ hn => (Bool.eq_false_iff.1 hn ht).elim
        absolute := fun ha => (Bool.eq_false_iff.1 relative ha).elim
        downloaded := fun hh => (Bool.eq_false_iff.1 hr hh).elim
        rest := rfl }⟩
  | tagged hr hk =>
    rw [not_or, Bool.not_eq_true, Bool.not_eq_true] at hk
    -- The slash behind the mark goes, and the path has no other in front.
    have bare : ('/' :: c.src.toList).dropWhile (· = '/') = c.src.toList := by
      refine (takeWhile_append_of_all (w := ['/']) (by simp) ?_).2
      intro a ha
      rw [decide_eq_false_iff_not]
      rintro rfl
      exact Bool.eq_false_iff.1 hk.1 (startsWith_singleton_iff.2 ha)
    obtain ⟨path, hj, rooted, hp⟩ := @marked ('/' :: c.src.toList) (by simp)
    rw [bare, String.ofList_toList] at hj
    exact ⟨c.settle appDest path, ⟨hp, rfl⟩, {
      rooted
      relative := fun _ _ _ => hj
      absolute := fun ha => (Bool.eq_false_iff.1 hk.1 ha).elim
      downloaded := fun hh => (Bool.eq_false_iff.1 hr hh).elim
      rest := rfl }⟩

theorem exists_allDelivers (base : inv.baseDir ≠ "") (root : startsWith cwd "/" = true)
    (absolute : ∀ request path, downloader request = .ok path → startsWith path "/" = true)
    {declared files : List Customization}
    (h : List.Forall₂ (fun c file =>
      (Customization.configure downloader suffix appDest c).result = .ok file) declared files) :
    ∃ files', List.Forall₂ (inv.Resolves cwd) files files' ∧
      List.Forall₂ (inv.Delivers cwd suffix downloader) declared (files.zip files') ∧
      ∀ file ∈ files', startsWith file.src "/" = true := by
  induction h with
  | nil => exact ⟨[], .nil, .nil, List.forall_mem_nil _⟩
  | cons hf _ ih =>
    obtain ⟨file', hr, hd⟩ := exists_delivers base root absolute hf
    obtain ⟨files', hrs, hds, rooted⟩ := ih
    exact ⟨file' :: files', .cons hr hrs, .cons hd hds, List.forall_mem_cons.2 ⟨hd.rooted, rooted⟩⟩

end Invocation

/-! ## Actions -/

/-- The files that a document declares for an action, which is for one of its apps or for none. -/
inductive Action.Declares (d : Document) (s : Scenario) (action : Action) : List Customization → Prop
    where
  | app {declared app} : (declared, app) ∈ d.apps.zip s.document.apps → action.name = app.name →
      action.files = app.customizations → Declares d s action declared.customizations
  | none : action.files = [] → Declares d s action []

namespace Compiler

variable {compiler : Compiler} {d : Document} {s : Scenario} {actions : List Action}

theorem files_of_compile (h : compiler.compile s = .ok actions) : ∀ action ∈ actions,
    action.files = [] ∨ ∃ app ∈ s.document.apps, action.name = app.name ∧
      action.files = app.customizations := by
  obtain ⟨blocks, rfl, hb⟩ := compile_eq_ok_iff.1 h
  rw [List.forall_mem_flatten]
  refine forall_mem_of_forall₂ hb ?_
  intro p _ block hp
  have block := compilePlaybook_eq_ok hp
  by_cases ha : p.apps = []
  · obtain ⟨action, rfl, alone⟩ := block.alone ha
    exact List.forall_mem_singleton.2 (.inl alone.files)
  · refine forall_mem_of_forall₂ (block.apps ha) ?_
    intro reference _ action hr
    obtain ⟨app, hf, name, -, -, files⟩ := hr.app
    exact .inr ⟨app, Scenario.mem_of_findApp hf, name, files⟩

/-- The files of a compiled action are those that the document declares for it, one by one. -/
theorem exists_declares {downloader : Downloader} (normalized : (d.normalize downloader).result = .ok s)
    (compiled : compiler.compile s = .ok actions) {action : Action} (ha : action ∈ actions) :
    ∃ declared appDest, action.Declares d s declared ∧ List.Forall₂ (fun c file =>
      (Customization.configure downloader d.suffix appDest c).result = .ok file)
      declared action.files := by
  rcases files_of_compile compiled action ha with hf | ⟨app, hm, name, hf⟩
  · exact ⟨[], "", .none hf, by rw [hf]; exact .nil⟩
  · obtain ⟨-, apps, rfl, happs⟩ := Document.normalize_result_eq_ok normalized
    obtain ⟨declared, hz, happ⟩ := exists_mem_zip_of_forall₂ happs hm
    obtain ⟨customizations, repository, hc, -, he⟩ := App.normalize_result_eq_ok happ
    have own : app.customizations = customizations := by rw [he]
    refine ⟨declared.customizations, (declared.place { d with dest := trimSlashes d.dest }).dest,
      .app hz name hf, ?_⟩
    rw [hf, own]
    exact hc

end Compiler

namespace Invocation

/-- Every action of a normalized scenario can be prepared in the folder of any configuration file. Its
files then have the sources that the document means, and preparing it again changes none of them. -/
theorem prepare_rooted {d : Document} {s : Scenario} {downloader : Downloader} {compiler : Compiler}
    {actions : List Action} {inv : Invocation} {config cwd : String}
    (absolute : ∀ request path, downloader request = .ok path → startsWith path "/" = true)
    (normalized : (d.normalize downloader).result = .ok s)
    (compiled : compiler.compile s = .ok actions) (base : inv.baseDir = Path.folder config)
    (root : startsWith cwd "/" = true) :
    ∀ action ∈ actions, ∃ declared prepared, action.Declares d s declared ∧
      inv.prepare cwd action = (prepared, .ok ()) ∧
      prepared.files.length = action.files.length ∧
      List.Forall₂ (inv.Delivers cwd d.suffix downloader) declared
        (action.files.zip prepared.files) ∧
      ∃ again, inv.prepare cwd prepared = (again, .ok ()) ∧ again.files = prepared.files ∧
        again.repository = prepared.repository := by
  intro action ha
  obtain ⟨declared, appDest, hd, hc⟩ := Compiler.exists_declares normalized compiled ha
  have nonempty : inv.baseDir ≠ "" := by
    rw [base]
    exact Path.folder_ne_empty config
  obtain ⟨files, hr, hdelivers, rooted⟩ := exists_allDelivers nonempty root absolute hc
  have settled : List.Forall₂ (inv.Resolves cwd) files files :=
    List.forall₂_same.2 fun file hm => resolves_of_rooted (rooted file hm)
  have keys : inv.giveKey ∘ inv.giveKey = inv.giveKey := funext inv.giveKey_giveKey
  refine ⟨declared, _, hd, prepare_eq hr, hr.length_eq.symm, hdelivers, _, prepare_eq settled, rfl, ?_⟩
  simp only [Option.map_map, keys]

theorem prepare_rooted_shop :
    let d : Document := {
      id := "shop"
      env := "test"
      dest := "/srv"
      oses := [{ user := "root" }]
      apps := [{
        name := "web"
        customizations := [{ src := "conf/../site.conf", dest := "site" },
          { src := "https://host/key", dest := "key" }, { src := "/etc/hosts", dest := "hosts" }]
        repository := some { sshUrl := "ssh://host/site.git" } }]
      playbooks := [{
        inventory := "hosts"
        apps := ["\x7b\x7bindex .Apps 0\x7d\x7d"]
        containers := [{ params := "-d x" }] }] }
    let downloader : Downloader := fun request => .ok ("/tmp/rigger-" ++ request.suffix)
    let inv : Invocation := { baseDir := Path.folder "plans/shop.json", gitKey := "key" }
    ∃ s actions, (d.normalize downloader).result = .ok s ∧
      Compiler.compile ⟨.ansible, ⟨[]⟩⟩ s = .ok actions ∧
      actions.map (fun action => (inv.prepare "/home" action).1.files.map (·.src)) =
        [["/home/plans/conf/../site.conf", "/tmp/rigger-shop-test", "/etc/hosts"]] ∧
      ∀ action ∈ actions, ∃ declared prepared, action.Declares d s declared ∧
        inv.prepare "/home" action = (prepared, .ok ()) ∧
        prepared.files.length = action.files.length ∧
        List.Forall₂ (inv.Delivers "/home" d.suffix downloader) declared
          (action.files.zip prepared.files) ∧
        ∃ again, inv.prepare "/home" prepared = (again, .ok ()) ∧ again.files = prepared.files ∧
          again.repository = prepared.repository := by
  intro d downloader inv
  have sources : ((d.normalize downloader).result.toOption.bind fun s =>
      (Compiler.compile ⟨.ansible, ⟨[]⟩⟩ s).toOption.map (·.map fun action =>
        (inv.prepare "/home" action).1.files.map (·.src))) =
      some [["/home/plans/conf/../site.conf", "/tmp/rigger-shop-test", "/etc/hosts"]] := by
    decide +kernel
  obtain ⟨s, hs, hc⟩ := Option.bind_eq_some_iff.1 sources
  obtain ⟨actions, ha, he⟩ := Option.map_eq_some_iff.1 hc
  have normalized := toOption_eq_some.1 hs
  have compiled := toOption_eq_some.1 ha
  have base : inv.baseDir = Path.folder "plans/shop.json" := rfl
  refine ⟨s, actions, normalized, compiled, he,
    prepare_rooted ?_ normalized compiled base (by decide +kernel)⟩
  intro request path hp
  cases hp
  rw [startsWith_iff, String.toList_append]
  have root : "/".toList <+: "/tmp/rigger-".toList := by decide
  exact root.trans (List.prefix_append _ _)

end Invocation

end Rollout
