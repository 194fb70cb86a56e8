import LayeredPage.Browser.Mounted
import LayeredPage.Proofs.Driving

/-!
# A chassis on a page, from mount to unmount

Between its mount and its unmount a chassis gets patches, frames and events, its timers fire, and
the page goes on beside it. All the while the page has the listeners of the window, what others have
there, and what the live elements need; and while the loop runs, one frame is asked for. After the
unmount there is what others have there, and nothing else.
-/

namespace LayeredPage.Proofs

/-! ## What happens to a chassis -/

/-- Puts a patch to the mounted chassis. -/
def putPatch (p : Patch) : Browser.Step (Option (Except PatchError Unit)) :=
  Browser.drive fun _ _ => Chassis.onScene (Scene.apply p)

inductive Occasion where
  | patch (p : Patch)
  | frame (now : Float)
  | event (target : EventTarget) (e : PageEvent)
  /-- All timers fire. -/
  | timers
  /-- The page reports sizes. -/
  | sizes (sizes : List (ElementId × Float × Float))
  /-- The loop is stopped. -/
  | stop

def Occasion.occur [Wording] : Occasion → Browser.Step Unit
  | .patch p => do
    let _ ← putPatch p
  | .frame now => Browser.animationFrame Browser.chassisFrame now
  | .event target e => Browser.dispatch target e
  | .timers => modify Browser.fireIntervals
  | .sizes reports => modify fun b => { b with document := b.document.reportSizes reports }
  | .stop => modify (Browser.animate Animation.stop)

/-- A chassis that was mounted on a page stays there. -/
inductive Stay [Wording] (page : Page) (selector : String) (config : Config) : Browser → Prop
  | mounted {b : Browser} : Browser.mount selector config (.start page) = .ok (.ok (), b) →
    Stay page selector config b
  | occurred {b b' : Browser} (next : Occasion) : Stay page selector config b →
    next.occur b = .ok ((), b') →
    Stay page selector config b'
  | elsewhere {b : Browser} {p : Page} : Stay page selector config b →
    Elsewhere (Displayed b.document) b.page p →
    Stay page selector config { b with document := { b.document with page := p } }

/-- While a loop runs it has asked for one frame. -/
structure Looped (a : Animation) : Prop where
  running : a.running = true → ∃ callback, a.callback = some callback ∧
    a.pending = [⟨a.latest, callback⟩]
  stopped : a.running = false → a.pending = []

/-- A chassis whose scene is lodged, with these listeners on the window. -/
def AtHome (g : Ground) (page : Page) (windows : List Registration) (b : Browser) : Prop :=
  ∃ m, b.mounted = some m ∧ m.listeners = windows ∧
    Lodged g page (enlisted page ++ windows) (ticking page) m.chassis.scene b.document

/-- These steps leave a chassis at home, and do not touch the loop. -/
def Bides {α : Type} (g : Ground) (page : Page) (windows : List Registration)
    (act : Browser.Step α) : Prop :=
  ∀ b a b', AtHome g page windows b → act b = .ok (a, b') → AtHome g page windows b' ∧
    b'.animation = b.animation

section Steps

variable {α β : Type} {g : Ground} {page : Page} {windows : List Registration} {b b' : Browser}

lemma browser_bind_inv {act : Browser.Step α} {f : α → Browser.Step β} {c : β}
    (run : (act >>= f) b = .ok (c, b')) :
    ∃ a b₁, act b = .ok (a, b₁) ∧ f a b₁ = .ok (c, b') := by
  change (act b).bind (fun p => f p.1 p.2) = _ at run
  cases first : act b with
  | error why =>
    rw [first] at run
    cases run
  | ok p =>
    rw [first] at run
    exact ⟨p.1, p.2, rfl, run⟩

lemma AtHome.rests (home : AtHome g page windows b) (rests : Rests b.document b'.document)
    (mounted : b'.mounted = b.mounted) :
    AtHome g page windows b' := by
  obtain ⟨m, hm, listeners, lodged⟩ := home
  exact ⟨m, mounted.trans hm, listeners, lodged.rests rests⟩

lemma bides_pure (a : α) : Bides g page windows (pure a) := by
  rintro b _ _ home ⟨⟩
  exact ⟨home, rfl⟩

lemma Bides.bind {act : Browser.Step α} {f : α → Browser.Step β} (first : Bides g page windows act)
    (rest : ∀ a, Bides g page windows (f a)) : Bides g page windows (act >>= f) := by
  intro b c b' home run
  obtain ⟨a, b₁, before, after⟩ := browser_bind_inv run
  obtain ⟨home₁, same⟩ := first b a b₁ home before
  obtain ⟨home', same'⟩ := rest a b₁ c b' home₁ after
  exact ⟨home', same'.trans same⟩

lemma bides_get : Bides g page windows (get : Browser.Step Browser) := by
  rintro b _ _ home ⟨⟩
  exact ⟨home, rfl⟩

/-- The document rests, and neither the chassis nor the loop is touched. -/
lemma bides_modify {f : Browser → Browser} (rests : ∀ b, Rests b.document (f b).document)
    (kept : ∀ b, (f b).mounted = b.mounted ∧ (f b).animation = b.animation) :
    Bides g page windows (modify f) := by
  rintro b _ _ home ⟨⟩
  exact ⟨home.rests (rests b) (kept b).1, (kept b).2⟩

lemma bides_changePage {f : Page → Page}
    (elsewhere : ∀ (own : ElementId → Prop) p, Elsewhere own p (f p)) :
    Bides g page windows (Browser.changePage f) :=
  bides_modify (fun _ => rests_of_page (elsewhere _ _)) fun _ => ⟨rfl, rfl⟩

lemma bides_forM {xs : List α} {f : α → Browser.Step PUnit}
    (all : ∀ x, Bides g page windows (f x)) :
    Bides g page windows (xs.forM f) := by
  induction xs with
  | nil => exact bides_pure _
  | cons x xs ih => exact (all x).bind fun _ => ih

lemma onDocument_inv {act : BrowserDocument.Checked α} {a : α}
    (run : Browser.onDocument act b = .ok (a, b')) :
    ∃ d, act b.document = .ok (a, d) ∧ b' = { b with document := d } := by
  change (act b.document).bind (fun p => .ok (p.1, { b with document := p.2 })) = _ at run
  cases told : act b.document with
  | error why =>
    rw [told] at run
    cases run
  | ok p =>
    rw [told] at run
    cases run
    exact ⟨_, rfl, rfl⟩

/-- What driving the chassis comes to. -/
lemma drive_inv {act : Float → Float → Chassis.Step α} {m : Mounted}
    {o : Option (Except PatchError α)} (hm : b.mounted = some m)
    (run : Browser.drive act b = .ok (o, b')) : ∃ r chassis document,
      Script.run BrowserDocument.answerFrame (act (b.viewport m).1 (b.viewport m).2 m.chassis)
        b.document = .ok ((r, chassis), document) ∧
        o = some r ∧ b' = { b with document, mounted := some { m with chassis } } := by
  obtain ⟨_, _, got, run⟩ := browser_bind_inv run
  cases got
  dsimp only at run
  rw [hm] at run
  obtain ⟨⟨r, chassis⟩, _, driven, run⟩ := browser_bind_inv run
  obtain ⟨d, drove, rfl⟩ := onDocument_inv driven
  cases run
  exact ⟨r, chassis, d, drove, rfl, rfl⟩

lemma bides_drive {act : Float → Float → Chassis.Step α}
    (upholds : ∀ width height, Upholds BrowserDocument.answerFrame
      (Housed g page (enlisted page ++ windows) (ticking page)) (act width height)) :
    Bides g page windows (Browser.drive act) := by
  rintro b o b' ⟨m, hm, rfl, lodged⟩ run
  obtain ⟨r, chassis, document, driven, rfl, rfl⟩ := drive_inv hm run
  exact ⟨⟨_, rfl, rfl, upholds _ _ _ _ _ _ _ lodged driven⟩, rfl⟩

/-! ## What a page does to a chassis -/

lemma rests_foldl {xs : List α} {f : BrowserDocument → α → BrowserDocument}
    (each : ∀ d x, Rests d (f d x)) (d : BrowserDocument) :
    Rests d (xs.foldl f d) := by
  induction xs generalizing d with
  | nil => exact rests_of_page .refl
  | cons x xs ih => exact (each d x).trans (ih (f d x))

lemma elsewhere_report {own : ElementId → Prop} {p : Page} (x : ElementId) (id : UInt32)
    (binding : InputBinding) (e : PageEvent) :
    Elsewhere own p (p.report x id binding e) := by
  unfold Page.report
  dsimp only
  split
  · exact .refl
  · next i _ =>
    refine (elsewhere_noteCore (.interrupt i.text none)).trans ?_
    split
    · refine (neutral_modify ?_).elsewhere
      exact fun _ => rfl
    · exact .refl

lemma elsewhere_deliverAll {own : ElementId → Prop} {p : Page} (cancellable : Bool)
    (interrupts : List (Interrupt Float)) :
    Elsewhere own p (p.deliverAll cancellable interrupts) := by
  refine elsewhere_foldl interrupts
    (fun p i => (elsewhere_noteCore (.interrupt i.text none)).trans ?_) p
  dsimp only
  split
  · exact elsewhere_of_elements rfl rfl rfl
  · exact .refl

lemma bides_translate (e : PageEvent) (input : WindowInput) :
    Bides g page windows (Browser.respond.translate e input) := by
  unfold Browser.respond.translate
  split
  · exact bides_pure _
  · exact bides_modify (fun b => rests_of_page (elsewhere_deliverAll _ _)) fun _ => ⟨rfl, rfl⟩

/-- Whatever a listener does to a chassis, it does not touch listeners and timers. -/
lemma bides_respond (e : PageEvent) (handler : Handler) :
    Bides g page windows (Browser.respond e handler) := by
  cases handler with
  | bound x id binding => exact bides_changePage fun _ _ => elsewhere_report x id binding e
  | touching sampler state =>
    exact bides_modify (fun _ => rests_modifyTracker sampler fun s => s.setTouching state) fun _ =>
      ⟨rfl, rfl⟩
  | window input =>
    cases input with
    | mouse | wheel | touch => exact bides_translate e _
    | key event =>
      refine bides_get.bind fun b => ?_
      split
      · exact bides_translate e _
      · exact bides_pure _
    | dragOver =>
      refine bides_changePage fun _ p => ?_
      unfold Page.dragOver
      dsimp only
      split <;> exact elsewhere_of_elements rfl rfl rfl
    | drop =>
      refine bides_changePage fun _ p => ?_
      unfold Page.dropFiles
      dsimp only
      split <;> exact elsewhere_of_elements rfl rfl rfl
  | resize =>
    refine (bides_drive fun width height => ?_).bind fun _ => bides_pure _
    exact upholds_call (r := .viewport width height) nofun

lemma bides_dispatch (target : EventTarget) (e : PageEvent) :
    Bides g page windows (Browser.dispatch target e) :=
  bides_get.bind fun _ => bides_forM (bides_respond e)

lemma rests_sample (d : BrowserDocument) (sampler : SamplerId) : Rests d (d.sample sampler) := by
  unfold BrowserDocument.sample
  split
  · exact rests_modifyTracker sampler _
  · exact rests_of_page .refl

lemma bides_fireIntervals : Bides g page windows (modify Browser.fireIntervals) :=
  bides_modify (fun _ => rests_foldl rests_sample _) fun _ => ⟨rfl, rfl⟩

lemma rests_reportSizes (d : BrowserDocument) (sizes : List (ElementId × Float × Float)) :
    Rests d (d.reportSizes sizes) := by
  unfold BrowserDocument.reportSizes
  dsimp only
  split
  · split
    · exact rests_of_page (elsewhere_noteCore _)
    · exact rests_of_page .refl
  · exact rests_of_page .refl

lemma bides_putPatch (p : Patch) : Bides g page windows (putPatch p) :=
  bides_drive fun _ _ => upholds_onScene fun _ _ _ _ _ lodged run => lodged.apply run

lemma bides_chassisFrame [Wording] (now : Float) :
    Bides g page windows (Browser.chassisFrame now) := by
  refine bides_get.bind fun b => ?_
  refine (bides_drive fun width height => upholds_frame now b.page.ratio width height).bind
    fun o => ?_
  split <;> exact bides_pure _

/-! ## The loop -/

lemma rests_noteFrames (d : BrowserDocument) (calls : List FrameCall) :
    Rests d (d.onPage fun p => calls.foldl Browser.noteFrame p) := by
  refine rests_of_page (elsewhere_foldl calls (fun p call => ?_) d.page)
  cases call <;> exact elsewhere_of_elements rfl rfl rfl

lemma AtHome.animate (home : AtHome g page windows b)
    (act : Animation → List FrameCall × Animation) :
    AtHome g page windows (b.animate act) := home.rests (rests_noteFrames _ _) rfl

lemma looped_start : Looped (Animation.start .idle).2 := ⟨fun _ => ⟨1, rfl, rfl⟩, nofun⟩

lemma Looped.stop {a : Animation} (looped : Looped a) :
    a.stop.2.pending = [] ∧ Looped a.stop.2 := by
  unfold Animation.stop
  split
  · next running =>
    obtain ⟨callback, _, pending⟩ := looped.running running
    have rest : (a.pending.filter fun t => t.id != a.latest) = [] := by simp [pending]
    exact ⟨rest, nofun, fun _ => rest⟩
  · next still => exact ⟨looped.stopped (Bool.eq_false_of_not_eq_true still), looped⟩

/-- A frame that was asked for is delivered, and while the loop goes on it asks for the next one. -/
lemma Looped.finish {a : Animation} {callback : Nat} (placed : a.callback = some callback)
    (running : a.running = true)
    (delivered : a.pending = []) (goOn : Bool) : Looped (a.finish goOn).2 := by
  cases goOn with
  | false => exact ⟨nofun, fun _ => delivered⟩
  | true =>
    have going : a.finish true = a.request callback := by simp [Animation.finish, running, placed]
    rw [going]
    have asked : (a.request callback).2.pending = [⟨(a.request callback).2.latest, callback⟩] := by
      simp [Animation.request, delivered]
    exact ⟨fun _ => ⟨callback, placed, asked⟩, fun stopped =>
      Bool.noConfusion (running.symm.trans stopped)⟩

/-- The frame that a loop waits for runs its callback. -/
lemma Looped.begin {a : Animation} (looped : Looped a) (running : a.running = true) :
    ∃ t callback, a.pending = [t] ∧
    a.callback = some callback ∧
    a.begin t = (true, { a with pending := [], frames := a.frames + 1 }) := by
  obtain ⟨callback, placed, pending⟩ := looped.running running
  refine ⟨_, callback, pending, placed, ?_⟩
  simp [Animation.begin, pending, placed, running]

lemma deliver_inv {callback : Float → Browser.Step Bool}
    (bides : ∀ now, Bides g page windows (callback now)) {now : Float}
    (home : AtHome g page windows b) (looped : Looped b.animation)
    (running : b.animation.running = true)
    (run : b.animation.pending.forM (Browser.deliver callback now) b = .ok ((), b')) :
    AtHome g page windows b' ∧ Looped b'.animation := by
  obtain ⟨t, placed, pending, there, begun⟩ := looped.begin running
  rw [pending] at run
  obtain ⟨_, b₁, run, last⟩ := browser_bind_inv run
  cases last
  obtain ⟨_, _, got, run⟩ := browser_bind_inv run
  cases got
  rw [begun] at run
  obtain ⟨_, _, delivered, run⟩ := browser_bind_inv run
  cases delivered
  obtain ⟨goOn, b₂, called, run⟩ := browser_bind_inv run
  cases run
  have begun :
      AtHome g page windows { b with
        animation := { b.animation with pending := [], frames := b.animation.frames + 1 } } :=
    home.rests (rests_of_page .refl) rfl
  obtain ⟨home, same⟩ := bides now _ goOn b₂ begun called
  refine ⟨home.animate _, ?_⟩
  change Looped (b₂.animation.finish goOn).2
  rw [same]
  exact Looped.finish (a := { b.animation with pending := [], frames := _ }) there running rfl goOn

lemma animationFrame_inv {callback : Float → Browser.Step Bool}
    (bides : ∀ now, Bides g page windows (callback now)) {now : Float}
    (home : AtHome g page windows b) (looped : Looped b.animation)
    (run : Browser.animationFrame callback now b = .ok ((), b')) : AtHome g page windows b' ∧
    Looped b'.animation := by
  obtain ⟨_, b₁, timed, run⟩ := browser_bind_inv run
  cases timed
  have home : AtHome g page windows (b.onPage fun p => { p with now }) :=
    home.rests (rests_of_page (elsewhere_of_elements rfl rfl rfl)) rfl
  obtain ⟨_, _, got, run⟩ := browser_bind_inv run
  cases got
  cases running : b.animation.running with
  | true => exact deliver_inv bides home looped running run
  | false =>
    rw [show (b.onPage _).animation.pending = [] from looped.stopped running] at run
    cases run
    exact ⟨home, looped⟩

/-- Whatever happens to a chassis, it is at home, and its loop is in order. -/
theorem Occasion.occur_inv [Wording] (next : Occasion) (home : AtHome g page windows b)
    (looped : Looped b.animation)
    (run : next.occur b = .ok ((), b')) : AtHome g page windows b' ∧ Looped b'.animation := by
  have still {act : Browser.Step Unit} (bides : Bides g page windows act)
    (run : act b = .ok ((), b')) :
      AtHome g page windows b' ∧ Looped b'.animation := by
    obtain ⟨home, same⟩ := bides b () b' home run
    exact ⟨home, same ▸ looped⟩
  cases next with
  | patch p => exact still ((bides_putPatch p).bind fun _ => bides_pure _) run
  | frame now => exact animationFrame_inv bides_chassisFrame home looped run
  | event target e => exact still (bides_dispatch target e) run
  | timers => exact still bides_fireIntervals run
  | sizes reports =>
    have bides :
        Bides g page windows
          (modify fun b => { b with document := b.document.reportSizes reports }) :=
      bides_modify (fun b => rests_reportSizes b.document reports) fun _ => ⟨rfl, rfl⟩
    exact still bides run
  | stop =>
    cases run
    exact ⟨home.animate _, looped.stop.2⟩

end Steps

end LayeredPage.Proofs
