/-
This file guesses what kind of error a message tells of. Each category has a few
keywords, the categories are asked in a fixed order, and the first one with a
keyword in the lower-case message wins. A message without any keyword is generic.
-/

import ErrorLint.Text.LowerCase
import ErrorLint.Text.Search

namespace ErrorLint

/-- The kinds of errors that a message can suggest. -/
inductive Category where
  | validation
  | notFound
  | unauthorized
  | timeout
  | network
  | generic
  deriving Repr, DecidableEq

namespace Category

/-- The categories that have keywords, in the order in which they are asked. -/
def ranked : List Category := [.validation, .notFound, .unauthorized, .timeout, .network]

/-- All categories. -/
def all : List Category := ranked ++ [.generic]

/-- The keywords of a category. Every other message is generic. -/
def keywords : Category → List String
  | .validation => ["validation", "invalid"]
  | .notFound => ["not found", "missing"]
  | .unauthorized => ["unauthorized", "permission"]
  | .timeout => ["timeout", "time out"]
  | .network => ["network", "connection"]
  | .generic => []

/-- The name suggested for an error class of the category. -/
def className : Category → String
  | .validation => "ValidationError"
  | .notFound => "NotFoundError"
  | .unauthorized => "UnauthorizedError"
  | .timeout => "TimeoutError"
  | .network => "NetworkError"
  | .generic => "CustomError"

/-- Whether a lower-case text holds a keyword of the category. -/
def occursIn (category : Category) (text : List Char) : Bool :=
  category.keywords.any fun keyword => Text.contains keyword.toList text

/-- The category of a message. -/
def ofMessage (message : String) : Category :=
  let text := Text.lower message.toList
  (ranked.find? (·.occursIn text)).getD .generic

end Category

end ErrorLint
