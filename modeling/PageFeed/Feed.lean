import PageFeed.Fields

/-! The data of a feed: named values about the feed itself, and a list of entries, each with named
values of its own. -/

namespace PageFeed

abbrev Entry := Fields String

structure Feed where
  info : Fields String
  entries : List Entry
deriving DecidableEq, Inhabited

end PageFeed
