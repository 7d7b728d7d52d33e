import Conduit.Pattern.Reader

/-!
# Subscriptions

A subscription lists what it is for: topics by their names, and patterns, which begin with a
circumflex and are for all topics that have them. A subscription that lists something twice, an
empty name or a pattern that is none is refused as a whole.
-/
namespace Conduit.Subscription

def isPattern (topic : String) : Bool := "^".isPrefixOf topic

def isUsable (topic : String) : Bool :=
  topic ≠ "" && (!isPattern topic || (Pattern.ofText? topic).isSome)

def isValid (topics : List String) : Bool := decide topics.Nodup && topics.all isUsable

/-- Whether something listed is for a topic. -/
def isFor (listed topic : String) : Bool :=
  if isPattern listed then (Pattern.ofText? listed).any fun pattern => pattern.isIn topic
  else listed = topic

/-- The topics among those there are that a subscription is for, each once. -/
def topicsAmong (existing topics : List String) : List String :=
  (topics.flatMap fun listed => existing.filter (isFor listed)).eraseDups

end Conduit.Subscription
