/-!
# Faces

Names of the faces in the block of emoticons.
Every word is a name with the code points of its characters behind it.
-/

namespace UtilityCss.Emoji

def faces : String :=
  "
    grinning/1F600 grinning_face/1F600 beaming_face_with_smiling_eyes/1F601 grin/1F601
    face_with_tears_of_joy/1F602 joy/1F602 grinning_face_with_big_eyes/1F603 smiley/1F603
    grinning_face_with_smiling_eyes/1F604 smile/1F604 grinning_face_with_sweat/1F605
    sweat_smile/1F605 grinning_squinting_face/1F606 laughing/1F606 satisfied/1F606 innocent/1F607
    smiling_face_with_halo/1F607 smiling_face_with_horns/1F608 smiling_imp/1F608 wink/1F609
    winking_face/1F609 blush/1F60A smiling_face_with_smiling_eyes/1F60A face_savoring_food/1F60B
    yum/1F60B relieved/1F60C relieved_face/1F60C heart_eyes/1F60D
    smiling_face_with_heart-eyes/1F60D smiling_face_with_sunglasses/1F60E sunglasses/1F60E
    smirk/1F60F smirking_face/1F60F neutral_face/1F610 expressionless/1F611
    expressionless_face/1F611 unamused/1F612 unamused_face/1F612 downcast_face_with_sweat/1F613
    sweat/1F613 pensive/1F614 pensive_face/1F614 confused/1F615 confused_face/1F615
    confounded/1F616 confounded_face/1F616 kissing/1F617 kissing_face/1F617
    face_blowing_a_kiss/1F618 kissing_heart/1F618 kissing_face_with_smiling_eyes/1F619
    kissing_smiling_eyes/1F619 kissing_closed_eyes/1F61A kissing_face_with_closed_eyes/1F61A
    face_with_tongue/1F61B stuck_out_tongue/1F61B stuck_out_tongue_winking_eye/1F61C
    winking_face_with_tongue/1F61C squinting_face_with_tongue/1F61D
    stuck_out_tongue_closed_eyes/1F61D disappointed/1F61E disappointed_face/1F61E worried/1F61F
    worried_face/1F61F angry/1F620 angry_face/1F620 pouting_face/1F621 rage/1F621 cry/1F622
    crying_face/1F622 persevere/1F623 persevering_face/1F623 face_with_steam_from_nose/1F624
    triumph/1F624 disappointed_relieved/1F625 sad_but_relieved_face/1F625 frowning/1F626
    frowning_face_with_open_mouth/1F626 anguished/1F627 anguished_face/1F627 fearful/1F628
    fearful_face/1F628 weary/1F629 weary_face/1F629 sleepy/1F62A sleepy_face/1F62A
    tired_face/1F62B grimacing/1F62C grimacing_face/1F62C loudly_crying_face/1F62D sob/1F62D
    face_with_open_mouth/1F62E open_mouth/1F62E hushed/1F62F hushed_face/1F62F
    anxious_face_with_sweat/1F630 cold_sweat/1F630 face_screaming_in_fear/1F631 scream/1F631
    astonished/1F632 astonished_face/1F632 flushed/1F633 flushed_face/1F633 sleeping/1F634
    sleeping_face/1F634 dizzy_face/1F635 face_without_mouth/1F636 no_mouth/1F636
    face_with_medical_mask/1F637 mask/1F637 grinning_cat_face_with_smiling_eyes/1F638
    smile_cat/1F638 cat_face_with_tears_of_joy/1F639 joy_cat/1F639 grinning_cat_face/1F63A
    smiley_cat/1F63A heart_eyes_cat/1F63B smiling_cat_face_with_heart-eyes/1F63B
    cat_face_with_wry_smile/1F63C smirk_cat/1F63C kissing_cat/1F63D kissing_cat_face/1F63D
    pouting_cat/1F63E pouting_cat_face/1F63E crying_cat_face/1F63F scream_cat/1F640
    weary_cat_face/1F640 slightly_frowning_face/1F641 slightly_smiling_face/1F642
    upside-down_face/1F643 upside__down_face/1F643 face_with_rolling_eyes/1F644 no_good/1F645
    ok_woman/1F646 bow/1F647 see-no-evil_monkey/1F648 see_no_evil/1F648 hear-no-evil_monkey/1F649
    hear_no_evil/1F649 speak-no-evil_monkey/1F64A speak_no_evil/1F64A raising_hand/1F64B
    raised_hands/1F64C person_with_pouting_face/1F64E pray/1F64F
  "

end UtilityCss.Emoji
