import Courier.Text.Split

/-!
# Topics

Event types and the patterns that select them are words joined by points. In a pattern the word `*`
stands for one word of any kind and the word `#` for any number of words.

* `Topic.matchWords`: whether the words of a pattern match the words of a key.
* `Topic.isMatch`: whether a pattern matches a key.
* `Topic.subtree`: the pattern for a topic and everything below it.
-/

namespace Courier.Topic

/-- The words of a pattern or a key. The empty text is one empty word. -/
def words (text : String) : List String := Text.split '.' text

/-- Whether a test holds of what remains of a list after some of its first words, which may be none
    or all of them. -/
def anyRest (p : List String → Bool) : List String → Bool
  | [] => p []
  | k :: ks => p (k :: ks) || anyRest p ks

/-- Whether the words of a pattern match the words of a key. -/
def matchWords : List String → List String → Bool
  | [], key => key.isEmpty
  | word :: rest, key =>
    if word = "#" then anyRest (matchWords rest) key
    else
      match key with
      | [] => false
      | k :: ks => (word = "*" || word = k) && matchWords rest ks

/-- Whether a pattern matches a key. -/
def isMatch (pattern key : String) : Bool := matchWords (words pattern) (words key)

/-- The pattern for a topic and everything below it. -/
def subtree (topic : String) : String := topic ++ ".#"

end Courier.Topic
