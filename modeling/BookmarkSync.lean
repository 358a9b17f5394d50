import BookmarkSync.Types
import BookmarkSync.Record
import BookmarkSync.Store
import BookmarkSync.Incoming
import BookmarkSync.IngestLaws
import BookmarkSync.IngestRuns
import BookmarkSync.Local
import BookmarkSync.Outgoing
import BookmarkSync.Trees
import BookmarkSync.Engine
import BookmarkSync.History
import BookmarkSync.FormUrlencoded
import BookmarkSync.QueryRewrite
import BookmarkSync.LocalItems
import BookmarkSync.Bookmarks
import BookmarkSync.RecordTypes
import BookmarkSync.BookmarkRuns
import BookmarkSync.FetchTree
import BookmarkSync.Schema
