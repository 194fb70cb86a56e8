import LayeredPage.Proofs.Stays

/-!
# The mount of a chassis

A mount takes over an element, builds the scene in it, listens at the window and starts the loop.
The scene is then in concert with its page, and what was on the page before is still there.
-/

namespace LayeredPage.Proofs

open MemoryDocument

section Scenes

variable {page : Page} {x : ElementId} {element : PageElement} {config : Config} {s : Scene}
  {d : BrowserDocument}

lemma faces_withMount : faces (BrowserDocument.withMount page x) = #[(x, [])] := by
  simp [faces, BrowserDocument.withMount, BrowserDocument.adopt, BrowserDocument.opened,
    BrowserDocument.start]

lemma gauges_withMount : gauges (BrowserDocument.withMount page x) = #[] := Array.map_empty

lemma single_withMount (kind : NodeKind) (loaded : Std.ExtTreeSet String) :
    (MemoryHost.withMount kind loaded).document.nodes.size = 1 := by
  simp [MemoryHost.withMount, MemoryDocument.create, MemoryDocument.empty]

/-- A fresh mount is in concert with the element that it is. -/
lemma concert_withMount (found : page.element? x = some element) (whole : WholePage page x)
    (able : page.lacks .createElement = false) (orderly : InSeries page) :
    Concert (ground page x False) (coreCalls page) (enlisted page) (ticking page)
    (MemoryHost.withMount .div page.core.loaded)
      (BrowserDocument.withMount page x) where
  toTandem := tandem_withMount found False.elim whole able
  tallied := by
    refine ⟨orderly, ?_, ?_⟩
    · unfold holdings
      rw [faces_withMount, gauges_withMount]
      exact .of_eq (List.append_nil _).symm
    · unfold clocks
      rw [gauges_withMount]
      exact .of_eq (List.append_nil _).symm
  wired := by
    refine ⟨fun i face hf => ?_, fun i gauge hg => ?_⟩
    · rw [faces_withMount, Array.getElem?_singleton] at hf
      unfold Tapped
      rw [show heard (MemoryHost.withMount .div page.core.loaded).document ⟨i⟩ =
        [] from (unheard_mount .div).heard ⟨i⟩]
      split at hf
      · cases hf
        exact .nil
      · cases hf
    · rw [gauges_withMount] at hg
      cases hg

/-- There are no elements at first. -/
lemma attach_blank {h : MemoryHost Recorder} (mount : NodeId) (config : Config) :
    Answers (Scene.attach mount config) h (fun r _ => ∀ s, r = .ok s → s.elements = ∅) fun _ =>
      True := by
  have ends :
      Ends Stage.addLayer (bare .complete mount) h (fun _ _ _ => True)
        (fun _ _ _ => True) fun _ => True :=
    Ends.any fun _ _ _ => trivial
  refine (answers_attach .complete config _).2 (ends.mono ?_ ?_ fun _ _ => trivial)
  · rintro _ _ _ _ _ ⟨⟩
    rfl
  · rintro _ _ _ _ _ ⟨⟩

/-- A scene that was just mounted is in concert with its page. -/
lemma Concert.attach {g : Ground} {past : List CoreCall} {outside : List Registration}
    {alien : List Nat} {h : MemoryHost Recorder}
    {d₀ : BrowserDocument} (concert : Concert g past outside alien h d₀)
    (unheard : Unheard h.document) (single : h.document.nodes.size = 1)
    (run : Script.run BrowserDocument.answerPatch (Scene.attach ⟨0⟩ config) d₀ = .ok (.ok s, d)) :
    (∃ h', MemoryHost.serve (Scene.attach ⟨0⟩ config) h = .ok (.ok s, h') ∧
      Ensemble g past outside alien s h' d) ∧
      ∃ made taken started stopped, Passage .free d₀ d made taken started stopped := by
  have behaves := behaves_attach (l := .free) concert.linked concert.mounted config
  have sound := attach_sound concert.linked concert.mounted config
  have attuned := attach_attuned unheard ⟨0⟩ config
  have blank := attach_blank (h := h) ⟨0⟩ config
  rw [single] at behaves sound
  have step := concert.serve behaves
  rw [run] at step
  unfold Answers at sound attuned blank
  unfold MemoryHost.serve at step sound attuned blank
  generalize served : Script.run MemoryHost.answerPatch (Scene.attach ⟨0⟩ config) h =
    r at step sound attuned blank
  cases step with
  | @value _ h' _ related =>
    obtain ⟨_, same, _, sound⟩ := sound
    cases same
    have equipped : Equipped s.elements h'.document := by
      rw [blank s rfl]
      exact fun id e he => absurd he (by simp)
    exact ⟨⟨h', served, related.1, sound, attuned s rfl, equipped⟩, related.2⟩

lemma lodged_attach (found : page.element? x = some element) (whole : WholePage page x)
    (able : page.lacks .createElement = false) (orderly : InSeries page)
    (run : Script.run BrowserDocument.answerPatch (Scene.attach ⟨0⟩ config)
      (BrowserDocument.withMount page x) = .ok (.ok s, d)) :
    Lodged (ground page x False) page (enlisted page) (ticking page) s d := by
  have single := single_withMount .div page.core.loaded
  obtain ⟨⟨h, _, ensemble⟩, made, taken, started, stopped, passage⟩ :=
    (concert_withMount found whole able orderly).attach (unheard_mount .div) single run
  have turnover : Turnover page d.page made taken started stopped := passage.toTurnover
  exact ⟨⟨_, h, ensemble⟩, _, _, _, _, orderly.ledger.turnover turnover⟩

end Scenes

/-! ## Listeners of the window -/

section Windows

variable {g : Ground} {past : List CoreCall} {outside windows : List Registration}
  {alien : List Nat} {s : Scene}
  {h : MemoryHost Recorder} {d : BrowserDocument} {page : Page} {b b' : Browser}

/-- A scene stays in concert when others add a listener to its page. -/
lemma Ensemble.listen (ensemble : Ensemble g past outside alien s h d)
    (target : EventTarget) (event : String) (options : ListenerOptions) (handler : Handler) :
    Ensemble g past (outside ++ [(d.page.listen target event options handler).1]) alien s h
      { d with page := (d.page.listen target event options handler).2 } := by
  have plain := plain_listen (p := d.page) target event options handler
  have turnover := turnover_listen ensemble.tallied.orderly.listens target event options handler
  have reflects := ensemble.toReflects.level .refl (level_of_page plain) ensemble.samplers
  refine ⟨⟨ensemble.toTandem.aside reflects plain.aside,
    ⟨ensemble.tallied.orderly.turnover turnover plain.lacking, ?_, ?_⟩, ?_⟩,
    ensemble.sound, ensemble.attuned, ensemble.equipped⟩
  · have listeners := turnover.listeners.symm.trans (ensemble.tallied.listeners.append_right _)
    rw [List.append_nil, List.append_assoc] at listeners
    refine listeners.trans ?_
    rw [List.append_assoc]
    exact List.perm_append_comm.append_left outside
  · have timers := turnover.intervals.symm.trans (ensemble.tallied.timers.append_right [])
    rw [List.append_nil, List.append_nil] at timers
    exact timers
  · exact ensemble.wired.of_subset rfl rfl
      (fun l hl => (turnover.lasting l hl).resolve_left List.not_mem_nil)
      fun i hi => (turnover.running i hi).resolve_left List.not_mem_nil

/-- The listeners of the window are there, besides what was on the page before, and the scene is
lodged. -/
structure Watched (g : Ground) (page : Page) (s : Scene) (windows : List Registration)
    (b : Browser) : Prop where
  lodged : Lodged g page (enlisted page ++ windows) (ticking page) s b.document
  windows : ∀ r ∈ windows, r.target = .window

lemma Watched.listen {event : String} {options : ListenerOptions}
    {handler : Handler} {r : Registration} (watched : Watched g page s windows b)
    (run : Browser.listen event options handler b = .ok (r, b')) :
    Watched g page s (windows ++ [r]) b' ∧ b'.animation = b.animation := by
  obtain ⟨⟨past, h, ensemble⟩, _, _, _, _, ledger⟩ := watched.lodged
  have turnover := turnover_listen ensemble.tallied.orderly.listens .window event options handler
  cases run
  refine ⟨⟨⟨⟨past, h, ?_⟩, _, _, _, _, ledger.turnover turnover⟩, fun r hr => ?_⟩, rfl⟩
  · rw [← List.append_assoc]
    exact ensemble.listen .window event options handler
  · rcases List.mem_append.1 hr with old | new
    · exact watched.windows r old
    · cases List.mem_singleton.1 new
      rfl

lemma Watched.listenAll {rows : List (String × ListenerOptions × WindowInput)}
    {rs : List Registration} (watched : Watched g page s windows b)
    (run : (rows.mapM fun (event, options, input) =>
      Browser.listen event options (.window input)) b = .ok (rs, b')) :
    Watched g page s (windows ++ rs) b' ∧ b'.animation = b.animation := by
  induction rows generalizing windows b rs with
  | nil =>
    cases run
    exact ⟨(List.append_nil windows).symm ▸ watched, rfl⟩
  | cons row rows ih =>
    rw [List.mapM_cons] at run
    obtain ⟨r, b₁, first, run⟩ := browser_bind_inv run
    obtain ⟨rs, b₂, rest, run⟩ := browser_bind_inv run
    cases run
    obtain ⟨watched, same⟩ := watched.listen first
    obtain ⟨watched, same'⟩ := ih watched rest
    rw [List.append_assoc] at watched
    exact ⟨watched, same'.trans same⟩

lemma Watched.installInput {rs : List Registration} (watched : Watched g page s [] b)
    (run : Browser.installInput b = .ok (rs, b')) : Watched g page s rs b' ∧
    b'.animation = b.animation := by
  obtain ⟨input, b₁, listened, run⟩ := browser_bind_inv run
  obtain ⟨r, b₂, sized, run⟩ := browser_bind_inv run
  cases run
  obtain ⟨watched, same⟩ := watched.listenAll listened
  obtain ⟨watched, same'⟩ := watched.listen sized
  exact ⟨watched, same'.trans same⟩

end Windows

/-! ## Mounting -/

section Mounting

variable {page : Page} {selector : String} {config : Config} {x : ElementId}
  {element : PageElement} {b : Browser}

lemma exists_element?_findMount (found : Browser.findMount page selector = .ok x) :
    ∃ element, page.element? x = some element := by
  unfold Browser.findMount at found
  split at found
  · cases found
  · split at found
    · cases found
    · split at found
      · cases found
      · cases found
      · next e _ =>
        split at found
        · next html =>
          cases found
          exact Option.isSome_iff_exists.1 (Option.isSome_of_any html)
        · cases found

/-- A chassis that was just mounted is at home on its page, and its loop runs. -/
theorem atHome_mount (found : Browser.findMount page selector = .ok x) (whole : WholePage page x)
    (able : page.lacks .createElement = false) (orderly : InSeries page)
    (run : Browser.mount selector config (.start page) = .ok (.ok (), b)) :
    ∃ windows, (∀ r ∈ windows, r.target = .window) ∧
      AtHome (ground page x False) page windows b ∧ Looped b.animation := by
  obtain ⟨element, there⟩ := exists_element?_findMount found
  obtain ⟨_, _, got, run⟩ := browser_bind_inv run
  cases got
  rw [show (Browser.start page).page = page from rfl, found] at run
  obtain ⟨root, b₁, adopted, run⟩ := browser_bind_inv run
  cases adopted
  obtain ⟨r, b₂, attached, run⟩ := browser_bind_inv run
  obtain ⟨d, framed, rfl⟩ := onDocument_inv attached
  obtain ⟨r, d₂, built, mapped⟩ := run_bind_inv framed
  cases mapped
  rw [run_embed fun r => bind_pure _] at built
  cases r with
  | error why => cases run
  | ok s =>
    obtain ⟨windows, b₃, installed, run⟩ := browser_bind_inv run
    cases run
    have watched :
        Watched (ground page x False) page s [] { Browser.start page with document := d } :=
      ⟨(List.append_nil (enlisted page)).symm ▸ lodged_attach there whole able orderly built,
        fun _ hr => absurd hr List.not_mem_nil⟩
    obtain ⟨watched, same⟩ := watched.installInput installed
    have home :
        AtHome (ground page x False) page windows
          { b₃ with mounted := some ⟨⟨s, false⟩, x, windows⟩ } :=
      ⟨_, rfl, rfl, watched.lodged⟩
    refine ⟨windows, watched.windows, home.animate Animation.start, ?_⟩
    change Looped (Animation.start b₃.animation).2
    rw [same]
    exact looped_start

end Mounting

end LayeredPage.Proofs
