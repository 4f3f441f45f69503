import AdExchange.Json.Basic

/-!
# Texts of libraries

Some messages end in words that are not the exchange's own: those of the JSON library about input
that does not have its form, those of the system about a file, and those of the runtime about a task
that has crashed.  What exactly these say is up to the libraries, and so is the text of the time of
day.  The exchange passes such texts on as they come.
-/

namespace AdExchange

/-- A form that input is expected to have. -/
inductive JsonForm where
  | bidRequest
  | bidResponse
  | site
  | app
  | user
  | granularity
  deriving DecidableEq, Repr, Inhabited

def JsonForm.name : JsonForm → String
  | .bidRequest => "bid request"
  | .bidResponse => "bid response"
  | .site => "site"
  | .app => "app"
  | .user => "user"
  | .granularity => "price granularity"

/-- What the libraries say.  The texts here stand for their words where none are given. -/
structure LibraryTexts where
  /-- About a text that is not of a form. -/
  badText : JsonForm → List UInt8 → String := fun form _ => "no " ++ form.name
  /-- About a value that is not of a form. -/
  badValue : JsonForm → Json → String := fun form _ => "no " ++ form.name
  /-- About a file, by its path, that cannot be read or does not have its form; `none` if no more is
  said of it. -/
  badFile : String → Option String := fun _ => none
  /-- About a task that has crashed.  The tasks that ask partners are numbered in the order in which
  they are started. -/
  crash : Nat → String := fun task => "task " ++ toString task ++ " panicked"
  /-- The time of day at a time of the exchange's own clock, if records are to have it. -/
  timeOfDay : Nat → Option String := fun _ => none
  deriving Inhabited

namespace LibraryTexts

/-- The texts once so many tasks have been started. -/
def after (t : LibraryTexts) (tasks : Nat) : LibraryTexts :=
  { t with crash := fun i => t.crash (i + tasks) }

end LibraryTexts

end AdExchange
