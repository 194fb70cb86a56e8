/-!
# Widget kinds
-/

namespace LayeredPage

inductive Widget where
  | text
  | button
  | checkbox
  | textbox
  | slider
  | dropdown
  | radioSet
  | scroller
  | eventBlocker
deriving DecidableEq, Repr

namespace Widget

def all : List Widget :=
  [.text, .button, .checkbox, .textbox, .slider, .dropdown, .radioSet, .scroller, .eventBlocker]

/-- Name in diagnostics. -/
def name : Widget → String
  | .text => "text"
  | .button => "button"
  | .checkbox => "checkbox"
  | .textbox => "textbox"
  | .slider => "slider"
  | .dropdown => "dropdown"
  | .radioSet => "radio set"
  | .scroller => "scroller"
  | .eventBlocker => "event blocker"

/-- Name in the tags of patches. -/
def wireName : Widget → String
  | .text => "Text"
  | .button => "Button"
  | .checkbox => "Checkbox"
  | .textbox => "Textbox"
  | .slider => "Slider"
  | .dropdown => "Dropdown"
  | .radioSet => "RadioSet"
  | .scroller => "Scroller"
  | .eventBlocker => "EventBlocker"

end Widget

end LayeredPage
