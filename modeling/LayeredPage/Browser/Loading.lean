import LayeredPage.Browser.Page

/-!
# Loading on a page

Fonts, images and dropped files come in beside the frames. An image that fails is tried again after
a wait until its attempts are used up; the core gets its pixels once, or never.
-/

namespace LayeredPage.Page

/-- Fetches an address: the next of its outcomes, a failure when there is none left. -/
def fetch (p : Page) (url : String) : Option Body × Page :=
  if p.lacks .window then (none, p)
  else
    let p := p.note (.fetch url)
    match p.network[url]? with
    | some (outcome :: rest) =>
      (outcome.body?, { p with network := p.network.insert url rest })
    | _ => (none, p)

/-- Reads the pixels of a picture by painting it. -/
def decode (p : Page) (picture : Picture) : Option Picture × Page :=
  let p := p.note (.offscreen picture.width picture.height)
  if p.lacks .getContext then (none, p) else (some picture, p.note .closeBitmap)

/-- One attempt at an image. -/
def fetchPicture (p : Page) (url : String) : Option Picture × Page :=
  match p.fetch url with
  | (some ⟨_, some picture⟩, p) => p.decode picture
  | (_, p) => (none, p)

def deliver (p : Page) (request : ImageRequest) (picture : Picture) : Page :=
  p.send (.image request.id request.path picture.width picture.height) (some picture.pixels)

/-- The next attempt at an image, if one is left, and the wait for the one after it. -/
def attemptImage (p : Page) (request : ImageRequest) (attempts delay : Nat) : Page :=
  match attempts with
  | 0 => p
  | left + 1 =>
    match p.fetchPicture request.path with
    | (some picture, p) => p.deliver request picture
    | (none, p) =>
      if left = 0 then p
      else p.sleep (.image request left (min (2 * delay) Backoff.longestDelay)) delay

/-- Adds a stylesheet to the head of the page. -/
def addStylesheet (p : Page) (url : String) : Page :=
  match p.fetch url with
  | (none, p) => p
  | (some body, p) =>
    if p.lacks .bodyText || p.lacks .createElement then p
    else
      let (style, p) := p.create "style"
      let p := p.setText style body.text
      if p.lacks .head then p else (p.append? head style).getD p

def addFace (p : Page) (family : String) : Page :=
  if p.lacks .loadFontFace then p else p.note (.addFont family)

/-- Sends a dropped file with its bytes, if they can be read. -/
def sendFile (p : Page) (position : Point Float) (file : DroppedFile) : Page :=
  match file.bytes with
  | none => p
  | some bytes =>
    p.send (.dropFile position file.name file.mimeType file.size.toUInt64) (some bytes)

def run (p : Page) : Task → Page
  | .image request attempts delay => p.attemptImage request attempts delay
  | .stylesheet url => p.addStylesheet url
  | .face family => p.addFace family
  | .dropped position file => p.sendFile position file

/-- Runs every task that does not wait, in the order in which they came. -/
def settle (p : Page) : Page := p.ready.foldl run { p with ready := [] }

def loadImage (p : Page) (request : ImageRequest) : Page :=
  p.spawn (.image request request.retry.attempts.toNat request.retry.initialDelay.toNat)

/-- Starts to load a face. A page that refuses a face has been asked for it all the same. -/
def loadFace (p : Page) (request : FaceRequest) : Page :=
  match request.source with
  | .stylesheet url => p.spawn (.stylesheet url)
  | .file url =>
    let p :=
      p.note (.fontFace request.family ("url(" ++ url ++ ")") request.style request.weight)
    if p.lacks .fontFace then p else p.spawn (.face request.family)

end LayeredPage.Page
